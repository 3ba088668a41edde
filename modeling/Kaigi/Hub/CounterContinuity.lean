import Kaigi.Hub.IssuedCounters
import Kaigi.Hub.KeyRotation
import Kaigi.Hub.PolicyProvenance

/-!
# The counters over a restart of the room

The counters are fields of the room, which goes when nobody is left in it. As long as no
counter goes with it, what the hub issues never counts lower than before.
-/

set_option autoImplicit false

namespace Kaigi.Hub

open Collections Wire Interleaving

/-- The last participant leaves a room some counter of which has moved. -/
def Event.dropsCounters (event : Event) : Bool :=
  event.op.isDisconnect && event.before.room.any fun room =>
    (room.participants.remove event.connId).isEmpty &&
      [Counter.permissions, .presence, .policy].any fun counter => 0 < counter.of (some room)

/-- Whatever is issued was issued by the task that sends it, and counts no lower than
what was issued before. -/
structure CountersSurvive (hub : HubState) (history : List Event) : Prop where
  issued : ∀ newer event older frame, history = newer ++ event :: older →
    event.op.frame? = some frame → counted frame ≠ none →
      ∃ issue ∈ older, issue.connId = event.connId ∧ issue.issues hub frame
  grow : ∀ newer middle older first second frame later counter number laterNumber,
    history = newer ++ second :: (middle ++ first :: older) →
      first.issues hub frame → second.issues hub later →
      counted frame = some (counter, number) → counted later = some (counter, laterNumber) →
        number ≤ laterNumber

section Runs

variable {hub : HubState} {history earlier : List Event} {event : Event}

/-- Whoever closes the room is the last to leave it. -/
theorem Event.empties_of_closes {room : RoomState} (found : event.before.room = some room)
    (closed : (event.after hub).room = none) : event.op.isDisconnect = true ∧
      (room.participants.remove event.connId).isEmpty = true := by
  obtain ⟨actor, task, op, state⟩ := event
  dsimp only at found ⊢
  have stays : state.room.map (op.updateRoom hub actor) ≠ none := by simp [found]
  cases op with
  | connect => cases closed
  | disconnect deltaAtMs leftAtMs =>
      have closed : (state.room.bind fun room =>
        (disconnectSection room actor deltaAtMs leftAtMs).1) = none := closed
      rw [found, Option.bind_some] at closed
      refine ⟨rfl, ?_⟩
      unfold disconnectSection at closed
      dsimp only at closed
      split at closed
      · next empty => exact empty
      · cases closed
  | trySend | takeMessage | closeChannel => cases found.symm.trans closed
  | _ => exact absurd closed stays

/-- A counter of an open room does not go back. -/
theorem Lawful.counter_grows (trace : Trace hub earlier)
    (same : event.before = sharedAfter hub earlier)
    (lawful : Lawful hub earlier event) {room after : RoomState}
    (found : event.before.room = some room) (left : (event.after hub).room = some after)
    (counter : Counter) : counter.of (some room) ≤ counter.of (some after) := by
  have was : (sharedAfter hub earlier).room = some room := same ▸ found
  cases counter with
  | permissions =>
      have bounded := trace.epoch_bounded
      rw [roomAfter_of_some was] at bounded
      have advances := lawful.epoch_advances left
      rw [HubRoom.opened_of_some found] at advances
      exact (advances bounded).1
  | presence => exact (event.sequence_le found left (trace.sequence_limited was)).1
  | policy =>
      have step := event.ledgerStep left
      rw [HubRoom.opened_of_some found] at step
      obtain ⟨kept, _⟩ | ⟨update, _, _, may, installed⟩ := step.policy_cases
      · exact (congrArg (·.policyEpoch) kept).ge
      · change room.policyEpoch ≤ (sessionPolicyFrame (some after)).policyEpoch
        rw [installed]
        exact may.later.le

theorem Counter.of_none (counter : Counter) : counter.of none = 0 := by
  cases counter <;> rfl

/-- A counter goes back only when it goes with the room. -/
theorem Lawful.counter_kept (trace : Trace hub earlier)
    (same : event.before = sharedAfter hub earlier)
    (lawful : Lawful hub earlier event) (keeps : event.dropsCounters = false)
    (counter : Counter) : counter.of event.before.room ≤ counter.of (event.after hub).room := by
  cases found : event.before.room with
  | none =>
      rw [counter.of_none]
      exact Nat.zero_le _
  | some room =>
      cases left : (event.after hub).room with
      | some after => exact lawful.counter_grows trace same found left counter
      | none =>
          obtain ⟨leaves, empty⟩ := Event.empties_of_closes found left
          unfold Event.dropsCounters at keeps
          rw [leaves, found, Bool.true_and, Option.any_some, empty, Bool.true_and] at keeps
          have still := List.any_eq_false.mp keeps counter (by cases counter <;> simp)
          rw [counter.of_none]
          exact Nat.le_of_not_lt (by simpa using still)

/-- Over every part of a run in which no counter goes with the room. -/
theorem Trace.counter_kept {later : List Event} (trace : Trace hub (later ++ earlier))
    (keeps : ∀ event ∈ later, event.dropsCounters = false) (counter : Counter) :
    counter.of (sharedAfter hub earlier).room ≤
      counter.of (sharedAfter hub (later ++ earlier)).room := by
  induction later with
  | nil => exact Nat.le_refl _
  | cons event rest ih =>
      obtain ⟨now, before⟩ := List.forall_mem_cons.mp keeps
      rw [List.cons_append] at trace ⊢
      cases trace with
      | step past same lawful =>
          refine (ih past before).trans ?_
          rw [← same]
          exact lawful.counter_kept past same now counter

/-- If no counter goes with the room, what is issued counts up over the whole run. -/
theorem counters_survive {system : System} (run : Run hub history system)
    (keeps : ∀ event ∈ history, event.dropsCounters = false) : CountersSurvive hub history where
  issued newer event older frame split carried shows := by
    obtain ⟨issue, happened, own, issues⟩ := run.issued split carried shows
    exact ⟨issue, happened, own.1, issues⟩
  grow newer middle older first second frame later counter number laterNumber split issues
      issuesLater shows showsLater := by
    subst split
    have trace := run.trace.1.suffix newer
    rw [← List.cons_append] at trace
    have grown := trace.counter_kept (fun event member => keeps event
      (List.mem_append_right newer (List.mem_append_left _ member))) counter
    rw [← first.issues_counted issues shows, ← second.issues_counted issuesLater showsLater]
    exact grown

end Runs

/-- The event sends a frame that shows this number. -/
def Event.shows (number : Counter × Nat) (event : Event) : Bool :=
  event.op.frame?.any fun frame => counted frame == some number

theorem Event.shows_spec {event : Event} {number : Counter × Nat}
    (shows : event.shows number = true) :
    ∃ frame, event.op.frame? = some frame ∧ counted frame = some number := by
  obtain ⟨frame, carried, same⟩ := (Option.any_eq_true ..).mp shows
  exact ⟨frame, carried, eq_of_beq same⟩

def survivalHub : HubState :=
  scriptedHub [helloAs "alice@sora", helloAs "bob@sora", waitingRoomPolicy]

/-- Alice hosts and bob joins; then alice turns the waiting room on and leaves. -/
def survivalScript : List Move :=
  [.connect 1 0, .connect 2 0] ++ sendsFrame 1 0 1 28 ++ sendsFrame 2 1 2 30 ++
    sendsFrame 1 2 3 15 ++ closes 1 4 17

theorem counters_survive_script :
    ∃ history system, Run survivalHub history system ∧
      (∃ event ∈ history, event.shows (.permissions, 3) = true) ∧
      (∃ event ∈ history, event.shows (.presence, 3) = true) ∧
      (∃ event ∈ history, event.shows (.policy, 1) = true) ∧
      CountersSurvive survivalHub history := by
  obtain ⟨history, system, run, checks⟩ := Run.of_played survivalHub survivalScript
    (fun history _ => history.all (fun event => !event.dropsCounters) &&
      [(Counter.permissions, 3), (.presence, 3), (.policy, 1)].all fun number =>
        history.any (·.shows number)) (by decide +kernel)
  simp only [Bool.and_eq_true, List.all_eq_true, Bool.not_eq_true', List.all_cons, List.all_nil,
    Bool.and_true, List.any_eq_true] at checks
  obtain ⟨keeps, permissions, presence, policy⟩ := checks
  exact ⟨history, system, run, permissions, presence, policy, counters_survive run keeps⟩

/-- Bob leaves too, so the room goes, and alice comes back on connection 3. -/
def restartScript : List Move :=
  survivalScript ++ closes 2 5 4 ++ [.connect 3 6] ++ sendsFrame 3 0 7 25

/-- What connection 3 is sent counts lower than what was sent before it connected. -/
theorem not_countersSurvive {hub : HubState} {later earlier : List Event} {system : System}
    {first second : Event} {counter : Counter} {number laterNumber : Nat}
    (run : Run hub (later ++ earlier) system) (sent : first ∈ earlier) (sentLater : second ∈ later)
    (fresh : ∀ event ∈ earlier, event.connId ≠ second.connId)
    (shows : first.shows (counter, number) = true)
    (showsLater : second.shows (counter, laterNumber) = true) (lower : laterNumber < number) :
    ¬ CountersSurvive hub (later ++ earlier) := by
  intro survive
  obtain ⟨frame, carried, counts⟩ := first.shows_spec shows
  obtain ⟨laterFrame, carriedLater, countsLater⟩ := second.shows_spec showsLater
  obtain ⟨between, before, rfl⟩ := List.append_of_mem sent
  obtain ⟨newer, middle, rfl⟩ := List.append_of_mem sentLater
  obtain ⟨issue, happened, _, issues⟩ := survive.issued (newer ++ second :: middle ++ between)
    first before frame (by simp) carried (by simp [counts])
  obtain ⟨issueLater, happenedLater, own, issuesLater⟩ := survive.issued newer second
    (middle ++ (between ++ first :: before)) laterFrame (by simp) carriedLater
    (by simp [countsLater])
  have inMiddle : issueLater ∈ middle :=
    (List.mem_append.mp happenedLater).resolve_right fun past => fresh issueLater past own
  obtain ⟨left, right, rfl⟩ := List.append_of_mem inMiddle
  obtain ⟨gap, oldest, rfl⟩ := List.append_of_mem happened
  exact absurd (survive.grow (newer ++ second :: left) (right ++ between ++ first :: gap) oldest
    issue issueLater frame laterFrame counter number laterNumber (by simp) issues issuesLater
    counts countsLater) (Nat.not_le_of_lt lower)

/-- All three counters start again in the new room. -/
theorem counters_restart :
    ∃ later earlier system, Run survivalHub (later ++ earlier) system ∧
      (∀ event ∈ earlier, event.connId ≠ 3) ∧
      (∀ counter number laterNumber, (counter, number, laterNumber) ∈
          [(Counter.permissions, 3, 1), (.presence, 3, 1), (.policy, 1, 0)] →
        ∃ first ∈ earlier, ∃ second ∈ later, first.shows (counter, number) = true ∧
          second.connId = 3 ∧ second.shows (counter, laterNumber) = true) ∧
      ¬ CountersSurvive survivalHub (later ++ earlier) := by
  obtain ⟨history, system, run, checks⟩ := Run.of_played survivalHub restartScript
    (fun history _ => (history.drop 18).all (fun event => event.connId != 3) &&
      [(Counter.permissions, 3, 1), (.presence, 3, 1), (.policy, 1, 0)].all fun numbers =>
        (history.drop 18).any (·.shows (numbers.1, numbers.2.1)) &&
          (history.take 18).any fun event =>
            event.connId == 3 && event.shows (numbers.1, numbers.2.2)) (by decide +kernel)
  simp only [Bool.and_eq_true, List.all_eq_true, bne_iff_ne, List.any_eq_true, beq_iff_eq] at checks
  obtain ⟨fresh, restarted⟩ := checks
  rw [← List.take_append_drop 18 history] at run
  have lower : ∀ counter number laterNumber, (counter, number, laterNumber) ∈
      [(Counter.permissions, 3, 1), (.presence, 3, 1), (.policy, 1, 0)] →
        ∃ first ∈ history.drop 18, ∃ second ∈ history.take 18,
          first.shows (counter, number) = true ∧ second.connId = 3 ∧
            second.shows (counter, laterNumber) = true := by
    intro counter number laterNumber among
    obtain ⟨⟨first, sent, shows⟩, second, sentLater, own, showsLater⟩ := restarted _ among
    exact ⟨first, sent, second, sentLater, shows, own, showsLater⟩
  refine ⟨_, _, system, run, fresh, lower, ?_⟩
  obtain ⟨first, sent, second, sentLater, shows, own, showsLater⟩ :=
    lower .policy 1 0 (by simp)
  exact not_countersSurvive run sent sentLater (own ▸ fresh) shows showsLater Nat.one_pos

end Kaigi.Hub
