import Kaigi.Hub.PresenceAnnouncement

/-!
# Order of the presence deltas

The queues keep the order of the sequence numbers as long as nobody who has
numbered a presence delta later announces it earlier.
-/

set_option autoImplicit false

namespace Kaigi.Hub

open Collections Wire Interleaving Replication

/-- The presence deltas that the event puts into the queue of the connection. -/
def Event.enqueuesPresence (target : ConnId) (event : Event) :
    List ParticipantPresenceDeltaFrame :=
  match event.op.sendsPresence with
  | some (recipient, delta) =>
      if recipient = target ∧ (event.before.channels target).accepts then [delta] else []
  | none => []

/-- The presence deltas put into the queue of the connection, in their order. -/
def presenceQueue (target : ConnId) : List Event → List ParticipantPresenceDeltaFrame
  | [] => []
  | event :: earlier => presenceQueue target earlier ++ event.enqueuesPresence target

/-- The presence deltas that the reducer of a client applies. Its `presence_sequence`
starts at zero. -/
def appliedPresence (queue : List ParticipantPresenceDeltaFrame) :
    List ParticipantPresenceDeltaFrame :=
  heeded (·.sequence) 0 queue

/-- The sequence numbers strictly increase. -/
abbrev Increasing (queue : List ParticipantPresenceDeltaFrame) : Prop :=
  queue.Pairwise fun first second => first.sequence < second.sequence

def Event.drawsSequence (hub : HubState) (event : Event) : Bool :=
  !(event.presenceDeltas hub).isEmpty

/-- The events since the task has numbered its latest delta. -/
def sinceDrawn (hub : HubState) (connId : ConnId) (task : Task) (history : List Event) :
    List Event :=
  history.takeWhile fun event =>
    !(event.connId == connId && event.task == task && event.drawsSequence hub)

/-- A connection numbers a delta, and later fans one out. -/
def announcesPresence (hub : HubState) : List Event → Bool
  | [] => false
  | event :: earlier =>
      (event.op.fansOutPresence.isSome && earlier.any fun draw =>
        draw.connId == event.connId && draw.drawsSequence hub) || announcesPresence hub earlier

/-- Since the task has numbered its latest delta, the room has stayed open, and nobody
else has numbered and fanned out another one. -/
def Event.inTurn (hub : HubState) (earlier : List Event) (event : Event) : Bool :=
  let since := sinceDrawn hub event.connId event.task earlier
  since.all (fun past => (past.after hub).room.isSome) && !announcesPresence hub since

/-- Deltas are sent in turn, and numbered as long as there are numbers. -/
def Event.keepsPresenceOrder (hub : HubState) (earlier : List Event) (event : Event) : Bool :=
  (event.op.sendsPresence.isNone || event.inTurn hub earlier) &&
    (!event.drawsSequence hub || event.before.room.all (·.presenceSequence < u64Max))

section Positions

variable {Item : Type}

/-- An item stands in the newer part of a list or in the older one. -/
theorem suffix_append {newer older rest : List Item} {item : Item}
    (suffix : item :: rest <:+ newer ++ older) :
    (∃ left right, newer = left ++ item :: right ∧ rest = right ++ older) ∨
      item :: rest <:+ older := by
  obtain ⟨left, same⟩ := suffix
  rcases List.append_eq_append_iff.mp same with ⟨middle, rfl, tail⟩ | ⟨middle, rfl, rfl⟩
  · cases middle with
    | nil =>
        rw [List.nil_append] at tail
        exact .inr ⟨[], tail⟩
    | cons head right =>
        rw [List.cons_append] at tail
        obtain ⟨rfl, rfl⟩ := List.cons.inj tail
        exact .inl ⟨left, right, rfl, rfl⟩
  · exact .inr ⟨middle, rfl⟩

end Positions

/-! ### Where a delta comes from -/

/-- The event is an operation of the connection task. -/
def Event.IsOf (connId : ConnId) (event : Event) : Prop :=
  event.connId = connId ∧ event.task = .connection

section Origins

variable {hub : HubState} {connId : ConnId} {delta : ParticipantPresenceDeltaFrame}

theorem own_cons_isOf {event : Event} (mine : event.IsOf connId) (history : List Event) :
    own connId .connection (event :: history) = event :: own connId .connection history := by
  obtain ⟨_, _, op, before⟩ := event
  obtain ⟨rfl, rfl⟩ := mine
  exact own_cons_self _ _ op before history

theorem own_cons_notIsOf {event : Event} (other : ¬ event.IsOf connId) (history : List Event) :
    own connId .connection (event :: history) = own connId .connection history :=
  own_cons_other history (not_and_or.mp other)

theorem Event.presenceDeltas_single (event : Event) :
    (event.presenceDeltas hub).length ≤ 1 := by
  by_cases draws : event.presenceDeltas hub = []
  · rw [draws]
    exact Nat.zero_le 1
  · obtain ⟨delta, _, _, single, _⟩ := event.numbered draws
    rw [single]
    exact Nat.le_refl 1

theorem undelivered_single (history : List Event) : (undelivered hub history).length ≤ 1 := by
  induction history with
  | nil => exact Nat.zero_le 1
  | cons event past ih =>
      unfold undelivered
      split
      · rw [List.length_tail]
        omega
      · exact ih
      · exact event.presenceDeltas_single

/-- A delta that is to be fanned out next has been numbered by the task, which has
numbered and fanned out nothing since. -/
theorem exists_draw {history : List Event}
    (next : (undelivered hub (own connId .connection history)).head? = some delta) :
    ∃ later draw older, history = later ++ draw :: older ∧ draw.IsOf connId ∧
      draw.presenceDeltas hub = [delta] ∧ ∀ event ∈ later, event.IsOf connId →
        event.presenceDeltas hub = [] ∧ event.op.fansOutPresence = none := by
  induction history with
  | nil => cases next
  | cons event past ih =>
      have further : (event.IsOf connId → event.presenceDeltas hub = [] ∧
            event.op.fansOutPresence = none) →
          (undelivered hub (own connId .connection past)).head? = some delta →
          ∃ later draw older, event :: past = later ++ draw :: older ∧ draw.IsOf connId ∧
            draw.presenceDeltas hub = [delta] ∧ ∀ event ∈ later, event.IsOf connId →
              event.presenceDeltas hub = [] ∧ event.op.fansOutPresence = none := by
        intro quiet before
        obtain ⟨later, draw, older, rfl, own, drawn, silent⟩ := ih before
        refine ⟨event :: later, draw, older, rfl, own, drawn, fun current member same => ?_⟩
        rcases List.mem_cons.mp member with rfl | member
        · exact quiet same
        · exact silent current member same
      by_cases mine : event.IsOf connId
      · rw [own_cons_isOf mine] at next
        unfold undelivered at next
        split at next
        · rw [List.head?_tail] at next
          obtain ⟨inside, _⟩ := List.getElem?_eq_some_iff.mp next
          have single : (undelivered hub (own connId .connection past)).length ≤ 1 :=
            undelivered_single _
          omega
        · next fanned drawn => exact further (fun _ => ⟨drawn, fanned⟩) next
        · have single : (event.presenceDeltas hub).length ≤ 1 := event.presenceDeltas_single
          obtain ⟨rest, first⟩ := List.head?_eq_some_iff.mp next
          rw [first, List.length_cons] at single
          rw [List.eq_nil_of_length_eq_zero (Nat.le_zero.mp (Nat.le_of_succ_le_succ single))]
            at first
          exact ⟨[], event, past, rfl, mine, first, fun _ member => absurd member List.not_mem_nil⟩
      · rw [own_cons_notIsOf mine] at next
        exact further (fun same => absurd same mine) next

/-- A delta that is being sent has been fanned out by the task, which has numbered and
fanned out nothing since, and has sent it to those that it has served. -/
theorem exists_fanout {history : List Event} {taken : HubRoom} {served : List ConnId}
    (sent : sending hub (own connId .connection history) = some (delta, taken, served)) :
    ∃ later fan older, history = later ++ fan :: older ∧ fan.IsOf connId ∧
      fan.op.fansOutPresence = some delta ∧ fan.before = taken ∧
        ∀ event ∈ later, event.IsOf connId → event.presenceDeltas hub = [] ∧
          event.op.fansOutPresence = none ∧
            ∀ target other, event.op.sendsPresence = some (target, other) → target ∈ served := by
  induction history generalizing served with
  | nil => cases sent
  | cons event past ih =>
      have further : ∀ before : List ConnId, before ⊆ served →
          (event.IsOf connId → event.presenceDeltas hub = [] ∧ event.op.fansOutPresence = none ∧
            ∀ target other, event.op.sendsPresence = some (target, other) → target ∈ served) →
          sending hub (own connId .connection past) = some (delta, taken, before) →
          ∃ later fan older, event :: past = later ++ fan :: older ∧ fan.IsOf connId ∧
            fan.op.fansOutPresence = some delta ∧ fan.before = taken ∧
              ∀ event ∈ later, event.IsOf connId → event.presenceDeltas hub = [] ∧
                event.op.fansOutPresence = none ∧ ∀ target other,
                  event.op.sendsPresence = some (target, other) → target ∈ served := by
        intro before fewer quiet started
        obtain ⟨later, fan, older, rfl, own, fans, taken, silent⟩ := ih started
        refine ⟨event :: later, fan, older, rfl, own, fans, taken, fun current member same => ?_⟩
        rcases List.mem_cons.mp member with rfl | member
        · exact quiet same
        · obtain ⟨undrawn, unfanned, reached⟩ := silent current member same
          exact ⟨undrawn, unfanned, fun target other sends => fewer (reached target other sends)⟩
      by_cases mine : event.IsOf connId
      · rw [own_cons_isOf mine] at sent
        unfold sending at sent
        split at sent
        · next fanned =>
            cases sent
            exact ⟨[], event, past, rfl, mine, fansOutPresence_eq_some.mpr fanned, rfl,
              fun _ member => absurd member List.not_mem_nil⟩
        · cases sent
        · next target other unfanned undrawn sends =>
            obtain ⟨⟨_, _, before⟩, started, same⟩ := Option.map_eq_some_iff.mp sent
            cases same
            refine further before (List.subset_cons_self _ _) (fun _ => ⟨undrawn,
              fansOutPresence_of_fansOut unfanned, fun recipient other known => ?_⟩) started
            rw [sends] at known
            cases known
            exact List.mem_cons_self
        · next unfanned undrawn unsent =>
            refine further served (List.Subset.refl served) (fun _ =>
              ⟨undrawn, fansOutPresence_of_fansOut unfanned, fun recipient other known => ?_⟩) sent
            rw [unsent] at known
            cases known
        · cases sent
      · rw [own_cons_notIsOf mine] at sent
        exact further served (List.Subset.refl served) (fun same => absurd same mine) sent

/-- In the history `later ++ fan :: (middle ++ draw :: older)` the task numbers the delta
with `draw` and fans it out with `fan`, and has not sent it to the target. -/
structure Announced (hub : HubState) (connId target : ConnId)
    (delta : ParticipantPresenceDeltaFrame) (later : List Event) (fan : Event)
    (middle : List Event) (draw : Event) : Prop where
  drawer : draw.IsOf connId
  draws : draw.presenceDeltas hub = [delta]
  announcer : fan.IsOf connId
  fans : fan.op.fansOutPresence = some delta
  among : target ∈ fan.before.connections
  undrawn : ∀ event ∈ later ++ fan :: middle, event.IsOf connId → event.presenceDeltas hub = []
  unfanned : ∀ event ∈ later ++ middle, event.IsOf connId → event.op.fansOutPresence = none
  unsent : ∀ event ∈ later, event.IsOf connId → ∀ other,
    event.op.sendsPresence ≠ some (target, other)

theorem Event.presenceDeltas_of_fanout {event : Event}
    (fans : event.op.fansOutPresence = some delta) : event.presenceDeltas hub = [] := by
  obtain ⟨actor, task, op, state⟩ := event
  refine presenceDeltas_of_quiet ?_ task state
  cases op with
  | fanout => rfl
  | _ => cases fans

theorem delivers_of_sendsPresence {op : Operation} {target : ConnId}
    (sends : op.sendsPresence = some (target, delta)) :
    op.delivers = some (target, .participantPresenceDelta delta) := by
  unfold Operation.sendsPresence at sends
  split at sends <;> cases sends
  rfl

/-- A delta that is sent has been numbered and then fanned out by the task that sends it. -/
theorem Run.announced {history newer earlier : List Event} {system : System} {event : Event}
    {target : ConnId} (run : Run hub history system) (split : history = newer ++ event :: earlier)
    (sends : event.op.sendsPresence = some (target, delta)) :
    event.IsOf event.connId ∧ ∃ later fan middle draw older,
      earlier = later ++ fan :: (middle ++ draw :: older) ∧
        Announced hub event.connId target delta later fan middle draw := by
  subst split
  have task := (run.trace.1.suffix newer).delivers (delivers_of_sendsPresence sends)
  have kept := (presenceProtocol hub event.connId).kept run
  refine ⟨⟨rfl, task⟩, ?_⟩
  rcases kept.admitted newer event earlier rfl rfl task with ⟨connectedAtMs, connects⟩ | admitted
  · rw [connects] at sends
    cases sends
  · obtain ⟨taken, served, sent, among, unserved⟩ := admitted.send target delta sends
    obtain ⟨later, fan, past, rfl, announcer, fans, rfl, silent⟩ := exists_fanout sent
    rcases kept.admitted (newer ++ event :: later) fan past (by simp) announcer.1 announcer.2 with
      ⟨connectedAtMs, connects⟩ | admitted
    · rw [connects] at fans
      cases fans
    · obtain ⟨middle, draw, older, rfl, drawer, draws, quiet⟩ :=
        exists_draw (admitted.fanout delta fans)
      refine ⟨later, fan, middle, draw, older, rfl, drawer, draws, announcer, fans, among,
        ?_, ?_, ?_⟩
      · intro current member same
        rcases List.mem_append.mp member with now | past
        · exact (silent current now same).1
        · rcases List.mem_cons.mp past with rfl | past
          · exact current.presenceDeltas_of_fanout fans
          · exact (quiet current past same).1
      · intro current member same
        rcases List.mem_append.mp member with now | past
        · exact (silent current now same).2.1
        · exact (quiet current past same).2
      · intro current member same other reached
        exact unserved ((silent current member same).2.2 target other reached)

theorem drawsSequence_iff {event : Event} :
    event.drawsSequence hub = true ↔ event.presenceDeltas hub ≠ [] := by
  simp [Event.drawsSequence]

variable {target : ConnId} {later middle older : List Event} {fan draw : Event}

/-- The events since the task has numbered the delta. -/
theorem Announced.since (announced : Announced hub connId target delta later fan middle draw) :
    sinceDrawn hub connId .connection (later ++ fan :: (middle ++ draw :: older)) =
      later ++ fan :: middle := by
  unfold sinceDrawn
  rw [← List.cons_append, ← List.append_assoc, List.takeWhile_append_of_pos,
    List.takeWhile_cons_of_neg, List.append_nil]
  · simp [Event.drawsSequence, announced.draws, announced.drawer.1, announced.drawer.2]
  · intro event member
    by_cases mine : event.IsOf connId
    · simp [Event.drawsSequence, announced.undrawn event member mine]
    · simp only [Bool.not_eq_true', Bool.and_eq_false_iff, beq_eq_false_iff_ne]
      exact .inl (not_and_or.mp mine)

theorem announcesPresence_of {left right : List Event} (fans : fan.op.fansOutPresence = some delta)
    (member : draw ∈ right) (same : draw.connId = fan.connId)
    (draws : draw.drawsSequence hub = true) :
    announcesPresence hub (left ++ fan :: right) = true := by
  induction left with
  | nil =>
      unfold announcesPresence
      have other : right.any (fun draw => draw.connId == fan.connId && draw.drawsSequence hub) =
          true := List.any_eq_true.mpr ⟨draw, member, by simp [same, draws]⟩
      simp [fans, other]
  | cons event rest ih =>
      rw [List.cons_append]
      unfold announcesPresence
      rw [ih, Bool.or_true]

end Origins

/-! ### Numbers and time -/

section Order

variable {hub : HubState} {newer older : List Event}

theorem Event.sequence_le {event : Event} {room after : RoomState}
    (found : event.before.room = some room) (left : (event.after hub).room = some after)
    (limited : room.presenceSequence ≤ u64Max) :
    room.presenceSequence ≤ after.presenceSequence ∧ after.presenceSequence ≤ u64Max := by
  have numbers := event.numbers found left
  generalize event.presenceDeltas hub = deltas at numbers
  generalize after.presenceSequence = last at numbers ⊢
  cases numbers with
  | nothing => exact ⟨Nat.le_refl _, limited⟩
  | next numbered =>
      rw [numbered]
      unfold saturatingAdd
      omega

/-- The numbers of a room start at zero. -/
theorem Event.sequence_opens {event : Event} {after : RoomState}
    (closed : event.before.room = none) (left : (event.after hub).room = some after) :
    after.presenceSequence = 0 := by
  obtain ⟨actor, task, op, state⟩ := event
  dsimp only at closed
  have none_of_map : state.room.map (op.updateRoom hub actor) = none := by
    rw [closed]
    rfl
  cases op with
  | connect connectedAtMs =>
      simp only [Event.after, Operation.apply, HubRoom.updateChannel, closed, Option.getD_none,
        Option.some.injEq] at left
      rw [← left]
      rfl
  | disconnect =>
      obtain ⟨current, present, _⟩ := Option.bind_eq_some_iff.mp left
      rw [closed] at present
      cases present
  | trySend | takeMessage | closeChannel => cases left.symm.trans closed
  | _ => cases left.symm.trans none_of_map

/-- The number of a room never exceeds the limit. -/
theorem Trace.sequence_limited {history : List Event} (trace : Trace hub history)
    {room : RoomState} (found : (sharedAfter hub history).room = some room) :
    room.presenceSequence ≤ u64Max := by
  induction trace generalizing room with
  | start => cases found
  | @step earlier event past before lawful ih =>
      cases opened : event.before.room with
      | none =>
          rw [event.sequence_opens opened found]
          exact Nat.zero_le _
      | some earlierRoom =>
          exact (event.sequence_le opened found (ih (before ▸ opened))).2

/-- As long as a room stays open its number does not go down. -/
theorem Trace.sequence_le (trace : Trace hub (newer ++ older)) {first last : RoomState}
    (start : (sharedAfter hub older).room = some first)
    (ended : (sharedAfter hub (newer ++ older)).room = some last)
    (stays : ∀ event ∈ newer, (event.after hub).room.isSome = true) :
    first.presenceSequence ≤ last.presenceSequence := by
  induction newer generalizing last with
  | nil =>
      rw [List.nil_append, start] at ended
      cases ended
      exact Nat.le_refl _
  | cons event rest ih =>
      have opened : (sharedAfter hub (rest ++ older)).room.isSome = true := by
        cases rest with
        | nil => simp [start]
        | cons previous _ => exact stays previous (List.mem_cons_of_mem _ List.mem_cons_self)
      obtain ⟨middle, found⟩ := Option.isSome_iff_exists.mp opened
      cases trace with
      | step past before _ =>
          have sofar := ih past found fun current member =>
            stays current (List.mem_cons_of_mem _ member)
          exact Nat.le_trans sofar
            (event.sequence_le (before ▸ found) ended (past.sequence_limited found)).1

/-- Two deltas that a room numbers while it stays open have increasing numbers. -/
theorem Trace.sequence_lt {first last : Event} {before after : ParticipantPresenceDeltaFrame}
    (trace : Trace hub (last :: (newer ++ first :: older)))
    (starts : first.presenceDeltas hub = [before]) (ends : last.presenceDeltas hub = [after])
    (stays : ∀ event ∈ newer, (event.after hub).room.isSome = true)
    (unlimited : last.before.room.all (·.presenceSequence < u64Max) = true) :
    before.sequence < after.sequence := by
  have drawsFirst : first.presenceDeltas hub ≠ [] := by simp [starts]
  have drawsLast : last.presenceDeltas hub ≠ [] := by simp [ends]
  obtain ⟨_, _, opened, single, _, left, _, given⟩ := first.numbered drawsFirst
  rw [starts, List.singleton_inj] at single
  obtain ⟨_, room, _, single', found, _, numbered, _⟩ := last.numbered drawsLast
  rw [ends, List.singleton_inj] at single'
  subst single single'
  cases trace with
  | step past same _ =>
      have kept := past.sequence_le left (same ▸ found) stays
      rw [given] at kept
      rw [found, Option.all_some, decide_eq_true_eq] at unlimited
      rw [numbered]
      unfold saturatingAdd
      omega

section Deltas

variable {first last target : ConnId} {before after : ParticipantPresenceDeltaFrame}
  {event fan₁ draw₁ fan₂ draw₂ : Event} {later₁ middle₁ older₁ later₂ middle₂ older₂ : List Event}

/-- The task fans a delta out once and sends it to the target once. -/
theorem Announced.once (announced : Announced hub last target after later₂ fan₂ middle₂ draw₂)
    (previous : Announced hub first target before later₁ fan₁ middle₁ draw₁)
    (mine : event.IsOf last) (sends : event.op.sendsPresence = some (target, before))
    (same : first = last)
    (inside : event :: (later₁ ++ fan₁ :: (middle₁ ++ draw₁ :: older₁)) <:+
      later₂ ++ fan₂ :: (middle₂ ++ draw₁ :: older₁)) : False := by
  subst same
  have fanned : fan₁ :: (middle₁ ++ draw₁ :: older₁) <:+
      later₂ ++ fan₂ :: (middle₂ ++ draw₁ :: older₁) :=
    (List.suffix_append _ _).trans ((List.suffix_cons _ _).trans inside)
  have unfanned : ¬ fan₁ ∈ later₂ ++ middle₂ := by
    intro member
    have silent := announced.unfanned fan₁ member previous.announcer
    rw [previous.fans] at silent
    cases silent
  rcases suffix_append fanned with ⟨left, right, rfl, _⟩ | here
  · exact unfanned (by simp)
  · rcases List.suffix_cons_iff.mp here with same | earlier
    · obtain ⟨rfl, same⟩ := List.cons.inj same
      rcases suffix_append inside with ⟨left, right, rfl, _⟩ | short
      · exact announced.unsent event (by simp) mine before sends
      · have length := short.length_le
        rw [same] at length
        simp only [List.length_cons, List.length_append] at length
        omega
    · rcases suffix_append earlier with ⟨left, right, rfl, _⟩ | short
      · exact unfanned (by simp)
      · have length := short.length_le
        simp only [List.length_cons, List.length_append] at length
        omega

/-- Of two deltas sent to the same target the one that is sent later has been numbered
later, unless the other one has overtaken it. -/
theorem Announced.ordered (announced : Announced hub last target after later₂ fan₂ middle₂ draw₂)
    (previous : Announced hub first target before later₁ fan₁ middle₁ draw₁)
    (mine : event.IsOf first) (sends : event.op.sendsPresence = some (target, before))
    (inside : event :: (later₁ ++ fan₁ :: (middle₁ ++ draw₁ :: older₁)) <:+
      later₂ ++ fan₂ :: (middle₂ ++ draw₂ :: older₂))
    (overtaken : announcesPresence hub (later₂ ++ fan₂ :: middle₂) = false) :
    draw₁ :: older₁ <:+ older₂ := by
  have split : later₂ ++ fan₂ :: (middle₂ ++ draw₂ :: older₂) =
      (later₂ ++ fan₂ :: middle₂) ++ draw₂ :: older₂ := by simp
  have fanned : fan₁ :: (middle₁ ++ draw₁ :: older₁) <:+
      (later₂ ++ fan₂ :: middle₂) ++ draw₂ :: older₂ := by
    rw [← split]
    exact (List.suffix_append _ _).trans ((List.suffix_cons _ _).trans inside)
  have drawn : draw₁ :: older₁ <:+ (later₂ ++ fan₂ :: middle₂) ++ draw₂ :: older₂ :=
    (List.suffix_append _ _).trans ((List.suffix_cons _ _).trans fanned)
  rcases suffix_append drawn with ⟨_, right, _, rfl⟩ | here
  · rcases suffix_append fanned with ⟨left, newer, since, same⟩ | short
    · have newer : newer = middle₁ ++ draw₁ :: right := by
        rw [← List.cons_append, ← List.append_assoc] at same
        exact (List.append_cancel_right same).symm
      have draws : draw₁.drawsSequence hub = true := by
        rw [drawsSequence_iff, previous.draws]
        exact List.cons_ne_nil _ _
      rw [since, announcesPresence_of previous.fans (by simp [newer])
        (previous.drawer.1.trans previous.announcer.1.symm) draws] at overtaken
      cases overtaken
    · have length := short.length_le
      simp only [List.length_cons, List.length_append] at length
      omega
  · rcases List.suffix_cons_iff.mp here with same | numberedBefore
    · obtain ⟨rfl, rfl⟩ := List.cons.inj same
      have same : first = last := previous.drawer.1.symm.trans announced.drawer.1
      exact (announced.once previous (same ▸ mine) sends same inside).elim
    · exact numberedBefore

/-- Between the numbering of two deltas sent to the same target the room stays open. -/
theorem Announced.stays {newer between : List Event}
    (trace : Trace hub (later₂ ++ fan₂ :: (middle₂ ++ draw₂ :: (newer ++ draw₁ :: older₁))))
    (announced : Announced hub last target after later₂ fan₂ middle₂ draw₂)
    (previous : Announced hub first target before later₁ fan₁ middle₁ draw₁)
    (split : later₂ ++ fan₂ :: (middle₂ ++ draw₂ :: (newer ++ draw₁ :: older₁)) =
      between ++ event :: (later₁ ++ fan₁ :: (middle₁ ++ draw₁ :: older₁)))
    (stays : ∀ event ∈ later₁ ++ fan₁ :: middle₁, (event.after hub).room.isSome = true)
    (current : Event) (member : current ∈ newer) : (current.after hub).room.isSome = true := by
  obtain ⟨left, right, rfl⟩ := List.append_of_mem member
  have past : Trace hub (middle₂ ++ draw₂ :: ((left ++ current :: right) ++ draw₁ :: older₁)) ∧
      target ∈ (sharedAfter hub
        (middle₂ ++ draw₂ :: ((left ++ current :: right) ++ draw₁ :: older₁))).connections := by
    obtain ⟨past, before, _⟩ := trace.lawful
    exact ⟨past, before ▸ announced.among⟩
  have was : target ∈ (sharedAfter hub (middle₁ ++ draw₁ :: older₁)).connections := by
    rw [split, ← List.cons_append, ← List.append_assoc] at trace
    obtain ⟨_, before, _⟩ := trace.lawful
    exact before ▸ previous.among
  -- Whenever the first delta has been fanned out, the target is still there.
  have afterFanout : ∀ middle, right ++ draw₁ :: older₁ = middle ++ (middle₁ ++ draw₁ :: older₁) →
      (current.after hub).room.isSome = true := by
    intro middle same
    have regrouped : middle₂ ++ draw₂ :: ((left ++ current :: right) ++ draw₁ :: older₁) =
        (middle₂ ++ draw₂ :: left) ++ ((current :: middle) ++ (middle₁ ++ draw₁ :: older₁)) := by
      simp [same]
    rw [regrouped] at past
    have stayed := past.1.stayed_throughout was past.2
    obtain ⟨room, found, _⟩ := HubRoom.exists_of_mem_connections stayed
    exact Option.isSome_iff_exists.mpr ⟨room, found⟩
  have here : current :: (right ++ draw₁ :: older₁) <:+
      between ++ event :: (later₁ ++ fan₁ :: (middle₁ ++ draw₁ :: older₁)) := by
    rw [← split]
    exact ⟨later₂ ++ fan₂ :: (middle₂ ++ draw₂ :: left), by simp⟩
  rcases suffix_append here with ⟨_, others, _, same⟩ | here
  · exact afterFanout (others ++ event :: (later₁ ++ [fan₁])) (by simp [same])
  · rcases List.suffix_cons_iff.mp here with same | earlier
    · exact afterFanout (later₁ ++ [fan₁]) (by simp [(List.cons.inj same).2])
    · have regrouped : later₁ ++ fan₁ :: (middle₁ ++ draw₁ :: older₁) =
          (later₁ ++ fan₁ :: middle₁) ++ draw₁ :: older₁ := by simp
      rw [regrouped] at earlier
      rcases suffix_append earlier with ⟨before, others, since, _⟩ | short
      · exact stays current (by simp [since])
      · have length := short.length_le
        simp only [List.length_cons, List.length_append] at length
        omega

end Deltas

end Order

/-! ### Every run -/

section Queues

variable {hub : HubState} {history : List Event} {system : System} {target : ConnId}

theorem mem_enqueuesPresence {event : Event} {delta : ParticipantPresenceDeltaFrame}
    (member : delta ∈ event.enqueuesPresence target) :
    event.op.sendsPresence = some (target, delta) := by
  unfold Event.enqueuesPresence at member
  split at member
  · next recipient sent sends =>
      split at member
      · next accepted =>
          rw [List.mem_singleton.mp member, sends, accepted.1]
      · cases member
  · cases member

theorem mem_presenceQueue {delta : ParticipantPresenceDeltaFrame}
    (member : delta ∈ presenceQueue target history) :
    ∃ between event earlier, history = between ++ event :: earlier ∧
      event.op.sendsPresence = some (target, delta) := by
  induction history with
  | nil => cases member
  | cons event past ih =>
      rcases List.mem_append.mp member with before | now
      · obtain ⟨between, sender, earlier, rfl, sends⟩ := ih before
        exact ⟨event :: between, sender, earlier, rfl, sends⟩
      · exact ⟨[], event, past, rfl, mem_enqueuesPresence now⟩

theorem Event.inTurn_iff {earlier later middle older : List Event} {event fan draw : Event}
    {connId : ConnId} {delta : ParticipantPresenceDeltaFrame}
    (announced : Announced hub connId target delta later fan middle draw)
    (mine : event.IsOf connId) (split : earlier = later ++ fan :: (middle ++ draw :: older)) :
    event.inTurn hub earlier = true ↔
      (∀ past ∈ later ++ fan :: middle, (past.after hub).room.isSome = true) ∧
        announcesPresence hub (later ++ fan :: middle) = false := by
  unfold Event.inTurn
  rw [mine.1, mine.2, split, announced.since, Bool.and_eq_true, List.all_eq_true,
    Bool.not_eq_true']

theorem Event.keepsPresenceOrder_iff {earlier : List Event} {event : Event} :
    event.keepsPresenceOrder hub earlier = true ↔
      (event.op.sendsPresence ≠ none → event.inTurn hub earlier = true) ∧
        (event.presenceDeltas hub ≠ [] →
          event.before.room.all (·.presenceSequence < u64Max) = true) := by
  unfold Event.keepsPresenceOrder
  rw [Bool.and_eq_true, Bool.or_eq_true, Bool.or_eq_true, Option.isNone_iff_eq_none,
    Bool.not_eq_true', ← drawsSequence_iff, or_iff_not_imp_left, or_iff_not_imp_left,
    Bool.not_eq_false]

/-- Of two deltas that are put into the same queue the later one has the greater number. -/
theorem Run.presence_increases (run : Run hub history system)
    (orderly : ∀ newer event earlier, history = newer ++ event :: earlier →
      event.keepsPresenceOrder hub earlier = true)
    {newer between earlier : List Event} {event previous : Event}
    {before after : ParticipantPresenceDeltaFrame}
    (split : history = newer ++ event :: (between ++ previous :: earlier))
    (sends : event.op.sendsPresence = some (target, after))
    (sent : previous.op.sendsPresence = some (target, before)) :
    before.sequence < after.sequence := by
  have turn : ∀ {newer earlier : List Event} {event : Event}
      {delta : ParticipantPresenceDeltaFrame}, history = newer ++ event :: earlier →
      event.op.sendsPresence = some (target, delta) → event.inTurn hub earlier = true := by
    intro newer earlier event delta here sends
    exact (event.keepsPresenceOrder_iff.mp (orderly newer event earlier here)).1 (by simp [sends])
  obtain ⟨mine, later₂, fan₂, middle₂, draw₂, older₂, split₂, announced⟩ :=
    run.announced split sends
  have previously : history = (newer ++ event :: between) ++ previous :: earlier := by simp [split]
  obtain ⟨others, later₁, fan₁, middle₁, draw₁, older₁, split₁, previous'⟩ :=
    run.announced previously sent
  obtain ⟨_, overtaken⟩ := (Event.inTurn_iff announced mine split₂).mp (turn split sends)
  obtain ⟨stays, _⟩ := (Event.inTurn_iff previous' others split₁).mp (turn previously sent)
  have inside : previous :: (later₁ ++ fan₁ :: (middle₁ ++ draw₁ :: older₁)) <:+
      later₂ ++ fan₂ :: (middle₂ ++ draw₂ :: older₂) := by
    rw [← split₂, ← split₁]
    exact List.suffix_append _ _
  obtain ⟨numbered, rfl⟩ := announced.ordered previous' others sent inside overtaken
  have trace := run.trace.1
  rw [split, split₂] at trace
  have trace := trace.lawful.1
  rw [split₁] at split₂
  have stays := announced.stays trace previous' split₂.symm stays
  have regrouped : later₂ ++ fan₂ :: (middle₂ ++ draw₂ :: (numbered ++ draw₁ :: older₁)) =
      (later₂ ++ fan₂ :: middle₂) ++ draw₂ :: (numbered ++ draw₁ :: older₁) := by simp
  rw [regrouped] at trace split₂
  have drawn : history = (newer ++ event :: (later₂ ++ fan₂ :: middle₂)) ++
      draw₂ :: (numbered ++ draw₁ :: older₁) := by
    rw [split, split₁, split₂]
    simp
  have kept := orderly _ draw₂ _ drawn
  have limited := (draw₂.keepsPresenceOrder_iff.mp kept).2 (by simp [announced.draws])
  exact (trace.suffix _).sequence_lt previous'.draws announced.draws stays limited

/-- Every presence delta has a number. -/
theorem Run.presence_positive (run : Run hub history system)
    {delta : ParticipantPresenceDeltaFrame} (member : delta ∈ presenceQueue target history) :
    0 < delta.sequence := by
  obtain ⟨newer, event, earlier, split, sends⟩ := mem_presenceQueue member
  obtain ⟨_, _, _, _, draw, _, _, announced⟩ := run.announced split sends
  have draws : draw.presenceDeltas hub ≠ [] := by simp [announced.draws]
  obtain ⟨_, room, _, single, _, _, numbered, _⟩ := draw.numbered draws
  rw [announced.draws, List.singleton_inj] at single
  subst single
  rw [numbered]
  unfold saturatingAdd u64Max
  omega

theorem presenceQueue_increases (run : Run hub history system)
    (orderly : ∀ newer event earlier, history = newer ++ event :: earlier →
      event.keepsPresenceOrder hub earlier = true) (newer earlier : List Event)
    (split : history = newer ++ earlier) :
    Increasing (presenceQueue target earlier) := by
  induction earlier generalizing newer with
  | nil => exact .nil
  | cons event past ih =>
      refine List.pairwise_append.mpr ⟨ih (newer ++ [event]) (by simp [split]), ?_, ?_⟩
      · unfold Event.enqueuesPresence
        split
        · split
          · exact List.pairwise_singleton _ _
          · exact .nil
        · exact .nil
      · intro before sent after sends
        obtain ⟨between, previous, older, rfl, previously⟩ := mem_presenceQueue sent
        exact run.presence_increases orderly split (mem_enqueuesPresence sends) previously

/-- If presence deltas are sent in turn, the deltas in every queue have increasing sequence
numbers, and a client that skips what is not newer applies all of them. -/
theorem presenceDeltas_ordered (run : Run hub history system)
    (orderly : ∀ newer event earlier, history = newer ++ event :: earlier →
      event.keepsPresenceOrder hub earlier = true) (target : ConnId) :
    Increasing (presenceQueue target history) ∧
      appliedPresence (presenceQueue target history) = presenceQueue target history := by
  have increases : Increasing (presenceQueue target history) :=
    presenceQueue_increases run orderly [] history rfl
  exact ⟨increases, heeded_of_increasing (fun _ member => run.presence_positive member) increases⟩

end Queues

/-- Alice and bob join one after the other, and both are told of both. -/
theorem presenceDeltas_ordered_script :
    ∃ history system, Run presenceHub history system ∧ (presenceQueue 1 history).length = 2 ∧
      Increasing (presenceQueue 1 history) ∧
      appliedPresence (presenceQueue 1 history) = presenceQueue 1 history := by
  obtain ⟨history, system, run, checks⟩ := Run.of_played presenceHub
    ([.connect 1 0, .connect 2 0] ++ sendsFrame 1 0 1 28 ++ sendsFrame 2 1 2 30)
    (fun history _ => (presenceQueue 1 history).length == 2 &&
      everyEvent (Event.keepsPresenceOrder presenceHub) history) (by decide +kernel)
  rw [Bool.and_eq_true, beq_iff_eq] at checks
  exact ⟨history, system, run, checks.1,
    presenceDeltas_ordered run (everyEvent_iff.mp checks.2) 1⟩

/-- Bob has numbered the delta of his join when alice joins and is told of it, and is told
of his own join afterwards. -/
theorem presenceDeltas_disordered :
    ¬ ∀ (hub : HubState) (history : List Event) (system : System) (target : ConnId),
      Run hub history system → Increasing (presenceQueue target history) := by
  intro claimed
  obtain ⟨history, system, run, checks⟩ := Run.of_played presenceHub
    ([.connect 1 0, .connect 2 0] ++ sendsFrame 2 1 1 5 ++ sendsFrame 1 0 2 28 ++
      List.replicate 25 (.advance 2 3))
    (fun history _ => !decide (Increasing (presenceQueue 1 history))) (by decide +kernel)
  rw [Bool.not_eq_true', decide_eq_false_iff_not] at checks
  exact checks (claimed presenceHub history system 1 run)

end Kaigi.Hub
