import Kaigi.Hub.HandlerRules
import Kaigi.Hub.PolicyProvenance
import Kaigi.Hub.RoomSettings

/-!
# Backpressure

A broadcast offers its frame once to every connection that was in the room when it began. The
offers that full channels refuse are counted, and when the round is over the room learns the
count. So between rounds no refused offer is uncounted, and none is counted twice.
-/

set_option autoImplicit false

namespace Kaigi.Hub

open Collections Wire Interleaving

/-- A round of offers: the frame, who is still to be offered it, and how many refused. -/
structure Round where
  frame : KaigiFrame
  remaining : List ConnId
  refused : Nat

namespace Round

/-- The offers of the event to the target that its channel refuses. -/
def refusals (event : Event) (target : ConnId) : Nat :=
  if (event.before.channels target).accepts then 0 else 1

/-- What an event of a task makes of its round. -/
def next (round : Option Round) (event : Event) : Option Round :=
  match event.op, round with
  | .fanout frame, _ => event.before.room.map fun room => ⟨frame, room.participants.keys, 0⟩
  | .trySend target _, some ⟨frame, _ :: rest, refused⟩ =>
      some ⟨frame, rest, refused + refusals event target⟩
  | _, _ => none

/-- The offer of the round that the event makes in vain. -/
def refusedBy (round : Option Round) (event : Event) : Nat :=
  match event.op, round with
  | .trySend target _, some ⟨_, _ :: _, _⟩ => refusals event target
  | _, _ => 0

def pending (round : Option Round) : Nat :=
  (round.map (·.refused)).getD 0

end Round

/-- The round that the latest operations of a task belong to. -/
def currentRound : List Event → Option Round
  | [] => none
  | event :: earlier => Round.next (currentRound earlier) event

/-- What a task may do next: finish the round, then report the refusals if there are any. -/
def Round.Admits : Option Round → Operation → Prop
  | some ⟨frame, next :: _, _⟩, op => op = .trySend next (.binary frame)
  | some ⟨_, [], refused + 1⟩, op => ∃ nowMs, op = .backpressure (refused + 1) nowMs
  | some ⟨_, [], 0⟩, op | none, op => ∀ dropped nowMs, op ≠ .backpressure dropped nowMs

/-- A report is never empty. -/
theorem Round.Admits.dropped_pos {round : Option Round} {dropped nowMs : Nat}
    (admitted : Round.Admits round (.backpressure dropped nowMs)) : 0 < dropped := by
  cases round with
  | none => exact absurd rfl (admitted dropped nowMs)
  | some current =>
      obtain ⟨frame, remaining, refused⟩ := current
      cases remaining with
      | cons target rest => cases admitted
      | nil =>
          cases refused with
          | zero => exact absurd rfl (admitted dropped nowMs)
          | succ refused =>
              obtain ⟨_, same⟩ := admitted
              cases same
              exact Nat.succ_pos refused

/-- Nothing is left to be offered or reported. -/
def Round.IsOver (round : Option Round) : Prop :=
  ∀ current, round = some current → current.remaining = [] ∧ current.refused = 0

theorem Round.IsOver.pending {round : Option Round} (idle : Round.IsOver round) :
    Round.pending round = 0 := by
  cases round with
  | none => rfl
  | some current => exact (idle current rfl).2

theorem Round.IsOver.admits {round : Option Round} (idle : Round.IsOver round) {op : Operation}
    (other : ∀ dropped nowMs, op ≠ .backpressure dropped nowMs) : Round.Admits round op := by
  rcases round with _ | ⟨frame, remaining, refused⟩
  · exact other
  · obtain ⟨rfl, rfl⟩ := idle _ rfl
    exact other

/-- Apart from a broadcast, nothing opens a round. -/
theorem currentRound_cons {past : List Event} {event : Event}
    (idle : Round.IsOver (currentRound past)) (plain : event.op.isBroadcast = false) :
    Round.IsOver (currentRound (event :: past)) := by
  intro current found
  simp only [currentRound, Round.next] at found
  split at found
  · next op =>
      rw [op] at plain
      cases plain
  · next opened =>
      obtain ⟨impossible, _⟩ := idle _ opened
      cases impossible
  · cases found

section Broadcast

variable {hub : HubState} {connId : ConnId}

/-- The contract of a task that finishes its rounds. -/
abbrev roundContract (hub : HubState) (connId : ConnId) :
    Contract HubRoom World Operation HubError :=
  ownContract hub connId fun past op _ => Round.Admits (currentRound past) op

/-- The program starts and ends between two rounds. -/
abbrev KeepsRounds (hub : HubState) (connId : ConnId) {Value : Type} (program : Handler Value) :
    Prop :=
  program.Keeps (roundContract hub connId) fun world => Round.IsOver (currentRound world.own)

theorem keepsRounds_atomic {Value : Type} {op : Operation} {next : HubRoom → Handler Value}
    (plain : op.isBroadcast = false) (rest : ∀ state, KeepsRounds hub connId (next state)) :
    KeepsRounds hub connId (.atomic op next) := by
  refine .atomic (stable_own (Round.IsOver ∘ currentRound)) (fun world idle => idle.admits ?_)
    (fun world idle => currentRound_cons idle plain) rest
  rintro dropped nowMs rfl
  cases plain

/-- The offers of a round, then the count of those refused. -/
theorem meets_fanoutTo (frame : KaigiFrame) (targets : List ConnId) (dropped : Nat) {world : World}
    (round : currentRound world.own = some ⟨frame, targets, dropped⟩) :
    (fanoutTo (.binary frame) targets dropped).Meets (roundContract hub connId)
      (fun count later => currentRound later.own = some ⟨frame, [], count⟩) world := by
  induction targets generalizing dropped world with
  | nil =>
      intro later own
      rw [own]
      exact round
  | cons target rest ih =>
      intro later own
      rw [← own] at round
      refine ⟨?_, ih _ ?_⟩
      · change Round.Admits (currentRound later.own) _
        rw [round]
        rfl
      · change Round.next (currentRound later.own) _ = _
        rw [round]
        cases accepts : (later.shared.channels target).accepts <;>
          simp [Round.next, Round.refusals, ownContract, accepts]

/-- The end of a round reports the refusals, so that it is over. -/
theorem meets_afterFanout (rules : PartRules (KeepsRounds hub connId)) (frame : KaigiFrame)
    (dropped : Nat) {world : World} (round : currentRound world.own = some ⟨frame, [], dropped⟩) :
    (afterFanout hub dropped).Meets (roundContract hub connId)
      (fun _ later => Round.IsOver (currentRound later.own)) world := by
  unfold afterFanout
  split
  · next positive =>
      intro now later own
      rw [← own] at round
      refine ⟨?_, ?_⟩
      · change Round.Admits (currentRound later.own) _
        rw [round]
        obtain ⟨count, rfl⟩ := Nat.exists_eq_succ_of_ne_zero (Nat.ne_of_gt positive)
        exact ⟨now, rfl⟩
      · have idle : Round.IsOver (currentRound (⟨connId, .connection, .backpressure dropped now,
            later.shared⟩ :: later.own)) := by
          intro current found
          cases found
        dsimp only [Process.bind]
        split
        · exact rules.done () _ idle
        · exact rules.notifyModerators _ _ idle
  · next zero =>
      intro later own
      rw [← own] at round
      intro current found
      rw [round] at found
      cases found
      exact ⟨rfl, Nat.eq_zero_of_not_pos zero⟩

/-- The parts of the handlers that broadcast nothing open no round. -/
theorem partRules_rounds : PartRules (KeepsRounds hub connId) where
  done := .done (stable_own (Round.IsOver ∘ currentRound))
  fail _ _ _ := trivial
  ask := .ask
  atomic part := keepsRounds_atomic (Operation.isPart_stays part).1
  bind := .bind

theorem keepsRounds_broadcastFrame (frame : KaigiFrame) :
    KeepsRounds hub connId (broadcastFrame hub frame) := by
  refine .bind (partRules_rounds.encodeOrFail frame) fun _ => ?_
  intro world idle later own
  have here := stable_own (Round.IsOver ∘ currentRound) own idle
  refine ⟨here.admits (fun _ _ same => by cases same), ?_⟩
  change Process.Meets _ _ (fanoutFound hub frame (later.shared.room.map (·.participants.keys))) _
  cases found : later.shared.room with
  | none =>
      refine partRules_rounds.done () _ fun current opened => ?_
      simp [ownContract, currentRound, Round.next, found] at opened
  | some room =>
      refine (meets_fanoutTo frame room.participants.keys 0 ?_).bind fun dropped after round =>
        meets_afterFanout partRules_rounds frame dropped round
      simp [ownContract, currentRound, Round.next, found]

theorem handlerRules_rounds : HandlerRules hub (fun _ => True) (KeepsRounds hub connId) :=
  { partRules_rounds with
    broadcast := fun {frame} _ => keepsRounds_broadcastFrame frame
    managed := fun _ => trivial
    ack := fun _ _ => keepsRounds_atomic rfl fun _ => partRules_rounds.done _ }

end Broadcast

/-- Every connection task finishes its rounds. -/
def roundProtocol (hub : HubState) (connId : ConnId) : Protocol hub connId where
  admits past op _ := Round.Admits (currentRound past) op
  resting past := Round.IsOver (currentRound past)
  connects _ _ _ found := by cases found
  pongs past payload state idle :=
    ⟨idle.admits (fun _ _ same => by cases same), currentRound_cons idle rfl⟩
  serves frame world idle := handlerRules_rounds.handleFrame frame (fun _ _ => trivial) world idle
  leaves world idle := handlerRules_rounds.handleDisconnect (fun _ => trivial)
    (fun _ _ => keepsRounds_atomic rfl) world idle

/-! ### Accounts -/

/-- The drops an event reports to its room. -/
def Event.drops (event : Event) : Nat :=
  match event.op with
  | .backpressure dropped _ => dropped
  | _ => 0

/-- The offers that the rounds of a task made in vain. -/
def refusedOffers : List Event → Nat
  | [] => 0
  | event :: earlier => refusedOffers earlier + Round.refusedBy (currentRound earlier) event

def reportedDrops : List Event → Nat
  | [] => 0
  | event :: earlier => reportedDrops earlier + event.drops

/-- Every refused offer of the past was reported once, or waits for the end of its round. -/
def Accounted (past : List Event) : Prop :=
  refusedOffers past = reportedDrops past + Round.pending (currentRound past)

theorem Event.drops_of_other {event : Event}
    (other : ∀ dropped nowMs, event.op ≠ .backpressure dropped nowMs) : event.drops = 0 := by
  unfold Event.drops
  split
  · next op => exact absurd op (other _ _)
  · rfl

/-- Where nobody is left to be offered anything, nothing is refused, and nothing stays pending. -/
theorem Round.refusedBy_over (round : Option Round) (event : Event)
    (offered : ∀ frame target rest refused, round ≠ some ⟨frame, target :: rest, refused⟩) :
    Round.refusedBy round event = 0 ∧ Round.pending (Round.next round event) = 0 := by
  constructor
  · unfold Round.refusedBy
    split
    · next opened _ => exact absurd rfl (offered _ _ _ _)
    · rfl
  · unfold Round.next Round.pending
    split
    · cases event.before.room <;> rfl
    · exact absurd rfl (offered _ _ _ _)
    · rfl

/-- An operation that its round admits reports what is pending, or adds to it what it finds
refused. -/
theorem Round.Admits.balanced {round : Option Round} {event : Event}
    (admitted : Round.Admits round event.op) :
    Round.pending round + Round.refusedBy round event =
      event.drops + Round.pending (Round.next round event) := by
  cases round with
  | none =>
      obtain ⟨nothing, settled⟩ := Round.refusedBy_over none event
        fun _ _ _ _ same => by cases same
      rw [nothing, settled, Event.drops_of_other admitted]
      rfl
  | some current =>
      obtain ⟨frame, remaining, refused⟩ := current
      cases remaining with
      | cons target rest =>
          have op : event.op = .trySend target (.binary frame) := admitted
          rw [Event.drops_of_other fun _ _ same => by rw [op] at same; cases same]
          simp [Round.pending, Round.refusedBy, Round.next, op]
      | nil =>
          obtain ⟨nothing, settled⟩ := Round.refusedBy_over (some ⟨frame, [], refused⟩) event
            fun _ _ _ _ same => by cases same
          rw [nothing, settled]
          cases refused with
          | zero =>
              rw [Event.drops_of_other admitted]
              rfl
          | succ refused =>
              obtain ⟨nowMs, op⟩ := admitted
              simp [Event.drops, op, Round.pending]

theorem Accounted.cons {past : List Event} (accounted : Accounted past) {event : Event}
    (admitted : Round.Admits (currentRound past) event.op) : Accounted (event :: past) := by
  have balanced := admitted.balanced
  unfold Accounted at accounted ⊢
  simp only [refusedOffers, reportedDrops, currentRound]
  omega

/-! ### Every run -/

section Runs

variable {hub : HubState} {history : List Event} {system : System}

/-- The account of a connection task is kept at every moment of a run. -/
theorem Run.accounted (run : Run hub history system) (connId : ConnId) :
    Accounted (own connId .connection history) := by
  refine Machine.Run.invariant (fun history _ => Accounted (own connId .connection history)) rfl
    ?_ run
  intro history system move next earlier accounted stepped
  have before : Run hub history system := earlier
  have later : Run hub ((system.event move).toList ++ history) next := earlier.step move stepped
  change Accounted (own connId .connection ((system.event move).toList ++ history))
  cases made : system.event move with
  | none => exact accounted
  | some event =>
      rw [made] at later
      by_cases mine : event.connId = connId ∧ event.task = .connection
      · obtain ⟨actor, task, op, shared⟩ := event
        obtain ⟨rfl, rfl⟩ := mine
        change Accounted (own actor .connection (⟨actor, .connection, op, shared⟩ :: history))
        rw [own_cons_self]
        rcases ((roundProtocol hub actor).kept later).admitted [] _ history rfl rfl rfl with
          ⟨connectedAtMs, connects⟩ | admitted
        · -- A connection connects once, so it has done nothing before.
          have unknown : system.connections actor = none := by
            by_contra known
            have lawful := (Trace.lawful [] later.trace.1).2.2
            exact (lawful.once connectedAtMs connects).1 (before.connected known)
          have nothing : Accounted [] := rfl
          rw [((roundProtocol hub actor).kept before).unborn unknown]
          refine nothing.cons ?_
          rintro dropped nowMs reports
          rw [connects] at reports
          cases reports
        · exact accounted.cons admitted
      · have same := own_cons_other history (not_and_or.mp mine)
        change Accounted (own connId .connection (event :: history))
        rw [same]
        exact accounted

/-- A task offers the frame of its round before it does anything else, and then reports. -/
theorem Run.admitsRound (run : Run hub history system) {newer older : List Event} {event : Event}
    (split : history = newer ++ event :: older) (task : event.task = .connection) :
    (∃ connectedAtMs, event.op = .connect connectedAtMs) ∨
      Round.Admits (currentRound (own event.connId .connection older)) event.op :=
  ((roundProtocol hub event.connId).kept run).admitted newer event older split rfl task

/-- The drops reported to the room since it opened. -/
def droppedSince : List Event → Nat
  | [] => 0
  | event :: earlier =>
      match event.before.room with
      | none => 0
      | some _ => droppedSince earlier + event.drops

theorem SettingsStep.dropped {room : RoomState} {connId : ConnId} {op : Operation}
    {settings : Settings} (step : SettingsStep hub room connId op settings) (before : HubRoom) :
    settings.backpressureDroppedMessages = saturatingAdd room.backpressureDroppedMessages
      (Event.drops ⟨connId, .connection, op, before⟩) ∨
    settings.backpressureDroppedMessages = room.backpressureDroppedMessages ∧
      ∀ dropped nowMs, op ≠ .backpressure dropped nowMs := by
  cases step with
  | kept other _ => exact .inr ⟨rfl, other⟩
  | quiet | noticed => exact .inl rfl
  | configured | turnedAway | surcharged => exact .inr ⟨rfl, fun _ _ same => by cases same⟩

/-- The counter of a room is the sum of the reports since it opened. -/
theorem Trace.droppedMessages (trace : Trace hub history) {room : RoomState}
    (found : (sharedAfter hub history).room = some room) :
    room.backpressureDroppedMessages = min (droppedSince history) u64Max := by
  induction trace generalizing room with
  | start => cases found
  | @step earlier event past same lawful ih =>
      cases before : event.before.room with
      | none =>
          have opened := congrArg Settings.backpressureDroppedMessages
            (Event.settings_opened before found)
          simp only [droppedSince, before]
          exact opened
      | some old =>
          have counted := ih (same ▸ before)
          simp only [droppedSince, before]
          have step := (Event.settingsStep before found).dropped event.before
          rcases step with added | ⟨kept, other⟩
          · change room.backpressureDroppedMessages = _ at added
            rw [added, counted]
            simp only [saturatingAdd, Event.drops]
            omega
          · change room.backpressureDroppedMessages = _ at kept
            rw [kept, counted, Event.drops_of_other other, Nat.add_zero]

/-- A broadcast offers its frame once to everybody who was in the room when it began, and every
refused offer is reported to the room exactly once, at the end of its round: between two handlers
nobody is left to be offered the frame and nothing is pending, and the counter of the room is the
sum of the reports since it opened. -/
theorem backpressure_accounts (run : Run hub history system) :
    (∀ newer event older, history = newer ++ event :: older → event.task = .connection →
      (∃ connectedAtMs, event.op = .connect connectedAtMs) ∨
        Round.Admits (currentRound (own event.connId .connection older)) event.op) ∧
    (∀ connId, refusedOffers (own connId .connection history) =
      reportedDrops (own connId .connection history) +
        Round.pending (currentRound (own connId .connection history))) ∧
    (∀ connId connection, system.connections connId = some connection →
      connection.phase.isSettled = true →
        Round.IsOver (currentRound (own connId .connection history))) ∧
    ∀ room, system.shared.room = some room →
      room.backpressureDroppedMessages = min (droppedSince history) u64Max := by
  refine ⟨?_, run.accounted, ?_, ?_⟩
  · intro newer event older split task
    exact run.admitsRound split task
  · intro connId connection known settled
    exact ((roundProtocol hub connId).kept run).rests known settled
  · intro room found
    obtain ⟨trace, shared⟩ := run.trace
    exact trace.droppedMessages (shared ▸ found)

def backpressureHub : HubState :=
  scriptedHub [helloAs "alice@sora"]

/-- Nobody reads what is sent to the second connection when alice joins. -/
def backpressureScript : List Move :=
  [.connect 1 0, .connect 2 0, .writerStopped 2] ++ sendsFrame 1 0 6000 37

theorem backpressure_accounts_script :
    ∃ history system room, Run backpressureHub history system ∧ system.shared.room = some room ∧
      room.backpressureDroppedMessages = 3 ∧ min (droppedSince history) u64Max = 3 ∧
        refusedOffers (own 1 .connection history) = reportedDrops (own 1 .connection history) := by
  obtain ⟨history, system, run, checks⟩ := Run.of_played backpressureHub backpressureScript
    (fun _ system => (system.shared.room.any fun room => room.backpressureDroppedMessages == 3) &&
      (system.connections 1).any fun connection => connection.phase.isSettled) (by decide +kernel)
  rw [Bool.and_eq_true, Option.any_eq_true, Option.any_eq_true] at checks
  obtain ⟨⟨room, found, dropped⟩, connection, known, settled⟩ := checks
  obtain ⟨_, accounts, rests, counts⟩ := backpressure_accounts run
  have counted := counts room found
  rw [beq_iff_eq.mp dropped] at counted
  refine ⟨history, system, room, run, found, beq_iff_eq.mp dropped, counted.symm, ?_⟩
  rw [accounts 1, (rests 1 connection known settled).pending, Nat.add_zero]

end Runs

end Kaigi.Hub
