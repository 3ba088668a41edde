import Kaigi.Hub.FrameOperations
import Kaigi.Hub.TaskProtocol

/-!
# Dismissals

A moderation that kicks or denies and a charge that is not paid decide to disconnect a
connection. The task that decides sends the close message afterwards, so for a while it
owes it.
-/

set_option autoImplicit false

namespace Kaigi.Hub

open Collections Wire Interleaving

/-! ## Decisions -/

def ModerationOutcome.dismissed (outcome : ModerationOutcome) : List ConnId :=
  outcome.closeSenders ++ outcome.deniedParticipants.map Prod.fst

/-- Whom a moderation decides to disconnect, from what its critical section shows. -/
def dismissedBy : Option (Except String ModerationOutcome) → List ConnId
  | some (.ok outcome) => if outcome.moderationError.isNone then outcome.dismissed else []
  | none | some (.error _) => []

def BillingOutcome.dismissed (connId : ConnId) : BillingOutcome → List ConnId
  | .disconnect _ => [connId]
  | .ended | .goOn => []

/-- Whom the event decides to disconnect. -/
def Event.dismisses (hub : HubState) (event : Event) : List ConnId :=
  match event.op with
  | .moderation moderation nowMs admitAtMs =>
      dismissedBy (event.before.room.bind fun room =>
        (moderationSection room event.connId moderation nowMs admitAtMs).2)
  | .billing nowMs =>
      ((event.before.room.map fun room =>
        (billingSection hub room event.connId nowMs).2).getD .ended).dismissed event.connId
  | _ => []

/-- What a kick tells the kicked. -/
def kickReason (moderation : ModerationFrame) : String :=
  match moderation.target with
  | .all => "meeting ended by host"
  | .participant participantId => s!"removed by host: {participantId}"

/-- The event is no kick whose reason is too long for a frame. -/
def Event.Explained (hub : HubState) (event : Event) : Prop :=
  ∀ moderation nowMs admitAtMs, event.op = .moderation moderation nowMs admitAtMs →
    moderation.action = .kick → (encodable hub (.error ⟨kickReason moderation⟩)).isSome = true

/-- The actions that disconnect their targets. -/
def dismissing : ModerationAction → Bool
  | .kick | .denyFromWaiting => true
  | .disableMic | .disableVideo | .disableScreenShare | .admitFromWaiting => false

/-- The frames that ask for somebody to be disconnected. -/
def asksToDismiss : KaigiFrame → Bool
  | .moderation moderation => dismissing moderation.action
  | .moderationSigned signed => dismissing signed.action
  | _ => false

/-- The operations that may decide to disconnect somebody. -/
def Operation.mayDismiss : Operation → Bool
  | .moderation _ _ _ | .billing _ => true
  | _ => false

theorem mayDismiss_of_isPlain (op : Operation) (plain : op.isPlain = true) :
    op.mayDismiss = false := by
  cases op with
  | moderation | billing => cases plain
  | _ => rfl

theorem Event.dismisses_of_not {hub : HubState} {event : Event}
    (cannot : event.op.mayDismiss = false) : event.dismisses hub = [] := by
  unfold Event.dismisses
  split
  · next op => rw [op] at cannot; cases cannot
  · next op => rw [op] at cannot; cases cannot
  · rfl

/-! ### What a moderation collects -/

/-- Only a kick collects connections to close, and only a denial denied ones. Neither collects
anything else. -/
structure ModerationOutcome.Fits (outcome : ModerationOutcome) (action : ModerationAction) :
    Prop where
  kicks : action ≠ .kick → outcome.closeSenders = []
  denies : action ≠ .denyFromWaiting → outcome.deniedParticipants = []
  announces : dismissing action = true → outcome.snapshots = [] ∧ outcome.admittedOutcomes = []

theorem disableMedium_fits {room : RoomState} {targetConnId : ConnId} {nowMs : Nat}
    {off : ParticipantState → ParticipantState} {outcome : ModerationOutcome}
    {action : ModerationAction} (fits : outcome.Fits action) (other : dismissing action = false) :
    (disableMedium room targetConnId nowMs off outcome).2.Fits action := by
  unfold disableMedium
  split
  · exact fits
  · refine ⟨fits.kicks, fits.denies, fun dismisses => ?_⟩
    rw [other] at dismisses
    cases dismisses

theorem moderateTarget_fits {action : ModerationAction} {nowMs admitAtMs : Nat}
    {room : RoomState} {outcome : ModerationOutcome} (targetConnId : ConnId)
    (fits : outcome.Fits action) :
    (moderateTarget action nowMs admitAtMs (room, outcome) targetConnId).2.Fits action := by
  unfold moderateTarget
  cases action with
  | kick => exact ⟨fun other => absurd rfl other, fits.denies, fits.announces⟩
  | disableMic | disableVideo | disableScreenShare => exact disableMedium_fits fits rfl
  | admitFromWaiting =>
      dsimp only
      split
      · exact ⟨fits.kicks, fits.denies, nofun⟩
      · exact ⟨fits.kicks, fits.denies, fits.announces⟩
  | denyFromWaiting =>
      dsimp only
      split
      · exact ⟨fits.kicks, fun other => absurd rfl other, fits.announces⟩
      · exact ⟨fits.kicks, fits.denies, fits.announces⟩

theorem moderateTargets_fits {action : ModerationAction} {nowMs admitAtMs : Nat}
    {targets : List ConnId} {state result : RoomState × ModerationOutcome}
    (folded : targets.foldl (moderateTarget action nowMs admitAtMs) state = result)
    (fits : state.2.Fits action) : result.2.Fits action := by
  subst folded
  induction targets generalizing state with
  | nil => exact fits
  | cons target targets ih => exact ih (moderateTarget_fits target fits)

theorem moderationSection_fits {room : RoomState} {connId : ConnId} {moderation : ModerationFrame}
    {nowMs admitAtMs : Nat} {outcome : ModerationOutcome}
    (collected : (moderationSection room connId moderation nowMs admitAtMs).2 =
      some (.ok outcome)) : outcome.Fits moderation.action := by
  unfold moderationSection at collected
  repeat' split at collected
  all_goals try cases collected
  next folded => exact moderateTargets_fits folded ⟨fun _ => rfl, fun _ => rfl, fun _ => ⟨rfl, rfl⟩⟩

/-! ## What a task owes -/

/-- Every decision of the past was followed by the close message, apart from those to the
`pending` connections. -/
def OwesClose (hub : HubState) (past : List Event) (pending : ConnId → Prop) : Prop :=
  ∀ later event earlier, past = later ++ event :: earlier → event.Explained hub →
    ∀ target ∈ event.dismisses hub,
      (∃ close ∈ later, close.op = .trySend target .close) ∨ pending target

/-- No close message is owed. -/
def Dismissed (hub : HubState) (past : List Event) : Prop :=
  OwesClose hub past fun _ => False

section Owes

variable {hub : HubState} {past : List Event} {pending weaker : ConnId → Prop}

theorem OwesClose.mono (owes : OwesClose hub past pending)
    (imp : ∀ target, pending target → weaker target) : OwesClose hub past weaker :=
  fun later event earlier split explained target member =>
    (owes later event earlier split explained target member).imp_right (imp target)

theorem OwesClose.cons (owes : OwesClose hub past pending) (event : Event)
    (imp : ∀ target, (event.Explained hub ∧ target ∈ event.dismisses hub) ∨
      (pending target ∧ event.op ≠ .trySend target .close) → weaker target) :
    OwesClose hub (event :: past) weaker := by
  intro later current earlier split explained target member
  cases later with
  | nil =>
      obtain ⟨rfl, rfl⟩ := List.cons.inj split
      exact .inr (imp target (.inl ⟨explained, member⟩))
  | cons latest rest =>
      obtain ⟨rfl, rfl⟩ := List.cons.inj split
      rcases owes rest current earlier rfl explained target member with ⟨close, among, sent⟩ | left
      · exact .inl ⟨close, List.mem_cons_of_mem _ among, sent⟩
      · by_cases sends : event.op = .trySend target .close
        · exact .inl ⟨event, List.mem_cons_self, sends⟩
        · exact .inr (imp target (.inr ⟨left, sends⟩))

theorem dismissed_nil (hub : HubState) : Dismissed hub [] :=
  fun later _ _ split => by cases later <;> cases split

/-- What decides nothing leaves what is owed as it is. -/
theorem OwesClose.quiet (owes : OwesClose hub past pending) {event : Event}
    (cannot : event.op.mayDismiss = false) : OwesClose hub (event :: past) pending := by
  refine owes.cons event ?_
  rintro target (⟨_, member⟩ | ⟨left, _⟩)
  · rw [event.dismisses_of_not cannot] at member
    cases member
  · exact left

theorem Dismissed.quiet (dismissed : Dismissed hub past) {event : Event}
    (cannot : event.op.mayDismiss = false) : Dismissed hub (event :: past) :=
  OwesClose.quiet dismissed cannot

end Owes

/-! ### Where a handler may fail -/

/-- Where a connection task may fail: nothing stopped its handler while it owed a close message,
unless it owes none. -/
abbrev CloseExcused (hub : HubState) : List Event → Prop :=
  Excused (Dismissed hub) (Event.Spares hub)

/-! ### What keeps an assertion about the own past -/

section Keeps

variable {hub : HubState} {connId : ConnId} {task : Task} {mayFail : List Event → Prop}
  {holds : List Event → Prop}

/-- What decides nothing does not break the assertion. -/
def KeptByQuiet (holds : List Event → Prop) : Prop :=
  ∀ event past, event.op.mayDismiss = false → holds past → holds (event :: past)

theorem OwesClose.keptByQuiet (pending : ConnId → Prop) :
    KeptByQuiet fun past => OwesClose hub past pending :=
  fun _ _ cannot owes => owes.quiet cannot

variable (quiet : KeptByQuiet holds)
include quiet

theorem keeps_trySend (target : ConnId) (message : Message) :
    (trySend target message).Keeps (taskContract hub connId task mayFail)
      fun world => holds world.own :=
  keeps_perform holds fun _ _ here => quiet _ _ rfl here

theorem keeps_fanout {message : Message} {targets : List ConnId} {dropped : Nat} :
    (fanoutTo message targets dropped).Keeps (taskContract hub connId task mayFail)
      fun world => holds world.own := by
  induction targets generalizing dropped with
  | nil => exact .done (stable_past holds) dropped
  | cons target rest ih => exact (keeps_trySend quiet target message).bind fun _ => ih

/-- A lookup that finds nobody stops the handler. -/
theorem keeps_sendFrameTo {frame : KaigiFrame}
    (excuses : encodable hub frame = none → ∀ past, holds past → CloseExcused hub past)
    (target : ConnId) :
    (sendFrameTo hub target frame).Keeps (taskContract hub connId task (CloseExcused hub))
      fun world => holds world.own := by
  have looks : (lookupSender target).Keeps (taskContract hub connId task (CloseExcused hub))
      fun world => holds world.own :=
    keeps_lookupSender holds (fun _ _ here => quiet _ _ rfl here)
      fun _ _ absent _ => .of_stopped absent
  exact (keeps_encodeOrFail excuses).bind fun _ => looks.bind fun _ =>
    (keeps_trySend quiet target _).bind fun _ => .done (stable_past holds) ()

theorem keeps_notifyModerators {message : String}
    (excuses : encodable hub (.error ⟨message⟩) = none →
      ∀ past, holds past → CloseExcused hub past) :
    (notifyModerators hub message).Keeps (taskContract hub connId task (CloseExcused hub))
      fun world => holds world.own :=
  (keeps_perform holds fun _ _ here => quiet _ _ rfl here).bind fun _ =>
    .each (stable_past holds) fun target _ => keeps_sendFrameTo quiet excuses target

end Keeps

/-! ### What a program settles -/

/-- Started when the close messages to `before` are owed, the program ends when those to
`after` are. -/
def SettlesClose (hub : HubState) (connId : ConnId) (task : Task) (mayFail : List Event → Prop)
    (before after : ConnId → Prop) {Value : Type} (program : Handler Value) : Prop :=
  ∀ world, OwesClose hub world.own before →
    program.Meets (taskContract hub connId task mayFail)
      (fun _ later => OwesClose hub later.own after) world

section Rules

variable {hub : HubState} {connId : ConnId} {task : Task} {mayFail : List Event → Prop}
  {Value Result : Type} {before middle after : ConnId → Prop}

theorem SettlesClose.bind {program : Handler Value} {next : Value → Handler Result}
    (first : SettlesClose hub connId task mayFail before middle program)
    (second : ∀ value, SettlesClose hub connId task mayFail middle after (next value)) :
    SettlesClose hub connId task mayFail before after (program >>= next) :=
  fun world start => (first world start).bind fun value later reached => second value later reached

theorem SettlesClose.mono {program : Handler Value} {stronger weaker : ConnId → Prop}
    (settles : SettlesClose hub connId task mayFail before after program)
    (start : ∀ target, stronger target → before target)
    (ended : ∀ target, after target → weaker target) :
    SettlesClose hub connId task mayFail stronger weaker program :=
  fun world owes => (settles world (owes.mono start)).mono fun _ _ left => left.mono ended

/-- A statement made only under a condition, before the rest of the program. -/
theorem SettlesClose.when {condition : Prop} [Decidable condition] {body : Handler Unit}
    {next : Unit → Handler Value} (first : SettlesClose hub connId task mayFail before before body)
    (rest : ∀ done, SettlesClose hub connId task mayFail before after (next done)) :
    SettlesClose hub connId task mayFail before after
      (if condition then body >>= next else next ()) := by
  split
  · exact first.bind rest
  · exact rest ()

theorem settlesClose_done (value : Value) :
    SettlesClose hub connId task mayFail before before (.done value : Handler Value) :=
  Process.Keeps.done (stable_past fun past => OwesClose hub past before) value

/-- A task that owes nothing may fail, and decides nothing without a critical section. -/
theorem settlesClose_of_performs {program : Handler Value}
    (performs : program.Performs fun op => op.mayDismiss = false) :
    SettlesClose hub connId task (CloseExcused hub) (fun _ => False) (fun _ => False) program :=
  performs.keeps (stable_past fun past => Dismissed hub past)
    (fun _ _ cannot dismissed => ⟨trivial, Dismissed.quiet dismissed cannot⟩)
    fun _ _ dismissed _ => dismissed

/-- A critical section adds what its event decides. -/
theorem settlesClose_critical {op : Operation} {view : Option RoomState → Value}
    {next : Value → Handler Result}
    (rest : ∀ state : HubRoom, SettlesClose hub connId task mayFail
      (fun target => before target ∨
        Event.Explained hub ⟨connId, task, op, state⟩ ∧
          target ∈ Event.dismisses hub ⟨connId, task, op, state⟩) after (next (view state.room))) :
    SettlesClose hub connId task mayFail before after (critical op view >>= next) := by
  intro world start world' own
  rw [← own] at start
  refine ⟨trivial, rest world'.shared _ (start.cons _ ?_)⟩
  rintro target (decided | ⟨pending, _⟩)
  · exact .inr decided
  · exact .inl pending

theorem settlesClose_trySend (target : ConnId) (message : Message) :
    SettlesClose hub connId task mayFail before before (trySend target message) :=
  keeps_trySend (OwesClose.keptByQuiet before) target message

theorem settlesClose_close (target : ConnId) :
    SettlesClose hub connId task mayFail before (fun other => before other ∧ other ≠ target)
      (trySend target .close) := by
  intro world start world' own
  rw [← own] at start
  refine ⟨trivial, fun later same => ?_⟩
  dsimp only
  rw [same]
  refine start.cons _ ?_
  rintro other (⟨_, member⟩ | ⟨pending, unsent⟩)
  · rw [Event.dismisses_of_not rfl] at member
    cases member
  · refine ⟨pending, ?_⟩
    rintro rfl
    exact unsent rfl

theorem settlesClose_sendClosing (target : ConnId) (notice : Option KaigiFrame) :
    SettlesClose hub connId task mayFail before (fun other => before other ∧ other ≠ target)
      (sendClosing target notice) := by
  have close : SettlesClose hub connId task mayFail before
      (fun other => before other ∧ other ≠ target)
      (do let _ ← trySend target .close : Handler Unit) :=
    (settlesClose_close target).bind fun _ => settlesClose_done ()
  cases notice with
  | none => exact close
  | some frame => exact (settlesClose_trySend target _).bind fun _ => close

theorem settlesClose_each {Item : Type} (items : List Item) (target : Item → ConnId)
    (notice : Item → Option KaigiFrame) :
    SettlesClose hub connId task mayFail (fun other => other ∈ items.map target) (fun _ => False)
      (Process.each items fun item => sendClosing (target item) (notice item)) := by
  induction items with
  | nil => exact (settlesClose_done ()).mono (fun _ member => nomatch member) fun _ => id
  | cons item items ih =>
      refine (settlesClose_sendClosing (target item) (notice item)).bind fun _ =>
        ih.mono ?_ fun _ => id
      rintro other ⟨member, unlike⟩
      exact (List.mem_cons.mp member).resolve_left unlike

/-- The end of a fan-out, while close messages are owed. -/
theorem settlesClose_afterFanout (dropped : Nat) :
    SettlesClose hub connId task (CloseExcused hub) before before (afterFanout hub dropped) := by
  refine keeps_afterFanout (fun past => OwesClose hub past before) dropped ?_ ?_
  · intro nowMs state past owes _
    exact owes.quiet rfl
  · intro nowMs state past notice world owes _ own stopped
    have owed : OwesClose hub world.own before := by
      rw [own]
      exact owes.quiet rfl
    have quiet : KeptByQuiet fun past => OwesClose hub past before ∧
        (encodable hub (.error ⟨notice⟩) = none → CloseExcused hub past) :=
      fun _ _ cannot ⟨owes, excused⟩ => ⟨owes.quiet cannot, fun unsent =>
        (excused unsent).cons fun dismissed => dismissed.quiet cannot⟩
    exact (keeps_notifyModerators quiet (fun unsent _ ⟨_, excused⟩ => excused unsent) _
      ⟨owed, stopped⟩).mono fun _ _ kept => kept.1

theorem settlesClose_broadcastFrame {frame : KaigiFrame}
    (encodes : (encodable hub frame).isSome = true) :
    SettlesClose hub connId task (CloseExcused hub) before before (broadcastFrame hub frame) := by
  have encoded : encodeOrFail hub frame = .done () := by
    unfold encodeOrFail
    cases bytes : encodeFramed hub.norito frame with
    | error => simp [encodable, bytes] at encodes
    | ok => rfl
  have found : ∀ senders, SettlesClose hub connId task (CloseExcused hub) before before
      (fanoutFound hub frame senders) := by
    intro senders
    cases senders with
    | none => exact settlesClose_done ()
    | some senders =>
        have fans : SettlesClose hub connId task (CloseExcused hub) before before
            (fanoutTo (.binary frame) senders 0) := keeps_fanout (OwesClose.keptByQuiet before)
        exact fans.bind fun dropped => settlesClose_afterFanout dropped
  have looks : SettlesClose hub connId task (CloseExcused hub) before before
      (critical (.fanout frame) fun room => room.map fun room => room.participants.keys) :=
    keeps_perform (fun past => OwesClose hub past before) fun _ _ owes => owes.quiet rfl
  have sends := looks.bind found
  unfold broadcastFrame
  rw [encoded]
  exact sends

/-- The end of a moderation sends every close message that is owed. -/
theorem settlesClose_dismissals {moderation : ModerationFrame} {outcome : ModerationOutcome}
    (fits : outcome.Fits moderation.action)
    (explained : moderation.action = .kick →
      (encodable hub (.error ⟨kickReason moderation⟩)).isSome = true) :
    SettlesClose hub connId task mayFail (fun other => other ∈ outcome.dismissed) (fun _ => False)
      ((do
        if moderation.action = .kick then
          let reason := match moderation.target with
            | .all => "meeting ended by host"
            | .participant participantId => s!"removed by host: {participantId}"
          match encodable hub (.error ⟨reason⟩) with
          | none => return
          | some frame =>
            Process.each outcome.closeSenders fun target => sendClosing target (some frame)
        if moderation.action = .denyFromWaiting then
          Process.each outcome.deniedParticipants fun (target, deniedId) =>
            sendClosing target
              (encodable hub (.error ⟨s!"waiting room admission denied: {deniedId}"⟩))) :
        Handler Unit) := by
  by_cases kicks : moderation.action = .kick
  · have noDenial : moderation.action ≠ .denyFromWaiting := by
      rw [kicks]
      exact nofun
    rw [if_pos kicks]
    dsimp only
    split
    · next rejected =>
        have none : encodable hub (.error ⟨kickReason moderation⟩) = none := rejected
        have some := explained kicks
        rw [none] at some
        cases some
    · next frame _ =>
        refine SettlesClose.bind
          ((settlesClose_each outcome.closeSenders id fun _ => some frame).mono ?_ fun _ => id) ?_
        · intro other member
          rw [ModerationOutcome.dismissed, fits.denies noDenial] at member
          simpa using member
        · intro _
          rw [if_neg noDenial]
          exact settlesClose_done ()
  · rw [if_neg kicks]
    have start : ∀ other, other ∈ outcome.dismissed →
        other ∈ outcome.deniedParticipants.map Prod.fst := by
      intro other member
      rw [ModerationOutcome.dismissed, fits.kicks kicks] at member
      exact member
    split
    · exact (settlesClose_each outcome.deniedParticipants Prod.fst fun denied =>
        encodable hub (.error ⟨s!"waiting room admission denied: {denied.2}"⟩)).mono start
          fun _ => id
    · next noDenial =>
        refine (settlesClose_done ()).mono (fun other member => ?_) fun _ => id
        have denied := start other member
        rw [fits.denies noDenial] at denied
        cases denied

theorem settlesClose_announceModeration {moderation : ModerationFrame} {auditFrame : KaigiFrame}
    {outcome : ModerationOutcome} (fits : outcome.Fits moderation.action)
    (plain : carriesHex auditFrame = false)
    (encodes : dismissing moderation.action = true → (encodable hub auditFrame).isSome = true)
    (explained : moderation.action = .kick →
      (encodable hub (.error ⟨kickReason moderation⟩)).isSome = true) :
    SettlesClose hub connId task (CloseExcused hub) (fun other => other ∈ outcome.dismissed)
      (fun _ => False) (announceModeration hub moderation auditFrame outcome) := by
  cases dismisses : dismissing moderation.action with
  | false =>
      have nobody : outcome.dismissed = [] := by
        unfold ModerationOutcome.dismissed
        rw [fits.kicks ?_, fits.denies ?_]
        · rfl
        all_goals
          intro same
          rw [same] at dismisses
          cases dismisses
      refine (settlesClose_of_performs (performs_announceModeration mayDismiss_of_isPlain moderation
        plain outcome)).mono (fun other member => ?_) fun _ => id
      rw [nobody] at member
      cases member
  | true =>
      obtain ⟨noSnapshot, noAdmission⟩ := fits.announces dismisses
      have admits : moderation.action ≠ .admitFromWaiting := by
        intro same
        rw [same] at dismisses
        cases dismisses
      unfold announceModeration
      rw [noSnapshot, noAdmission]
      exact (settlesClose_broadcastFrame (encodes dismisses)).bind fun _ => by
        rw [if_neg admits]
        exact settlesClose_dismissals fits explained

theorem settlesClose_sendError (target : ConnId) (message : String) :
    SettlesClose hub connId task (CloseExcused hub) (fun _ => False) (fun _ => False)
      (sendError hub target message) :=
  settlesClose_of_performs (performs_reports mayDismiss_of_isPlain target message)

theorem settlesClose_processModerationFrame (moderation : ModerationFrame)
    {auditFrame : KaigiFrame} (plain : carriesHex auditFrame = false)
    (encodes : dismissing moderation.action = true → (encodable hub auditFrame).isSome = true) :
    SettlesClose hub connId .connection (CloseExcused hub) (fun _ => False) (fun _ => False)
      (processModerationFrame hub connId moderation auditFrame) := by
  refine (settlesClose_of_performs (performs_critical rfl)).bind fun anonymous => ?_
  cases anonymous with
  | true => exact settlesClose_sendError connId _
  | false =>
      refine (settlesClose_of_performs performs_nowMs).bind fun now =>
        (settlesClose_of_performs performs_nowMs).bind fun admitAtMs =>
          settlesClose_critical fun state => ?_
      have pending : ∀ shown, (state.room.bind fun room =>
          (moderationSection room connId moderation now admitAtMs).2) = shown → ∀ target,
          False ∨ Event.Explained hub ⟨connId, .connection,
              .moderation moderation now admitAtMs, state⟩ ∧
            target ∈ Event.dismisses hub ⟨connId, .connection,
              .moderation moderation now admitAtMs, state⟩ →
          (moderation.action = .kick →
              (encodable hub (.error ⟨kickReason moderation⟩)).isSome = true) ∧
            target ∈ dismissedBy shown := by
        rintro shown rfl target (impossible | ⟨explained, member⟩)
        · exact impossible.elim
        · exact ⟨explained moderation now admitAtMs rfl, member⟩
      generalize shows : (state.room.bind fun room =>
        (moderationSection room connId moderation now admitAtMs).2) = shown
      rcases shown with _ | (message | outcome)
      · refine (settlesClose_done ()).mono (fun target owed => ?_) fun _ => id
        cases (pending _ shows target owed).2
      · refine (settlesClose_sendError connId message).mono (fun target owed => ?_) fun _ => id
        cases (pending _ shows target owed).2
      · obtain ⟨room, _, collected⟩ := Option.bind_eq_some_iff.mp shows
        have fits := moderationSection_fits collected
        dsimp only
        split
        · next failed =>
            refine (settlesClose_sendError connId _).mono (fun target owed => ?_) fun _ => id
            have member := (pending _ shows target owed).2
            simp [dismissedBy, failed] at member
        · next passed =>
            have among : ∀ target, target ∈ dismissedBy (some (.ok outcome)) →
                target ∈ outcome.dismissed := by
              intro target member
              simpa [dismissedBy, passed] using member
            by_cases explained : moderation.action = .kick →
                (encodable hub (.error ⟨kickReason moderation⟩)).isSome = true
            · exact (settlesClose_announceModeration fits plain encodes explained).mono
                (fun target owed => among target (pending _ shows target owed).2) fun _ => id
            · exact (settlesClose_of_performs (performs_announceModeration mayDismiss_of_isPlain
                moderation plain outcome)).mono
                  (fun target owed => explained (pending _ shows target owed).1) fun _ => id

theorem settlesClose_handleFrame {frame : KaigiFrame}
    (encodes : asksToDismiss frame = true → (encodable hub frame).isSome = true) :
    SettlesClose hub connId .connection (CloseExcused hub) (fun _ => False) (fun _ => False)
      (handleFrame hub connId frame) := by
  cases frame with
  | moderation moderation => exact settlesClose_processModerationFrame moderation rfl encodes
  | moderationSigned signed =>
      refine (settlesClose_of_performs (performs_critical rfl)).bind fun anonymous => ?_
      cases anonymous with
      | true => exact settlesClose_sendError connId _
      | false =>
          refine (settlesClose_of_performs (performs_critical rfl)).bind fun outcome => ?_
          cases outcome with
          | ignored => exact settlesClose_done ()
          | refused message => exact settlesClose_sendError connId message
          | passed => exact settlesClose_processModerationFrame _ rfl encodes
  | _ =>
      refine settlesClose_of_performs ((performs_handleFrame _).mono ?_)
      rintro op (plumbing | own)
      · cases op with
        | moderation | billing => cases plumbing
        | _ => rfl
      · cases own <;> rfl

theorem performs_leave_mayDismiss :
    (handleDisconnect hub connId).Performs fun op => op.mayDismiss = false := by
  refine performs_leave.mono ?_
  rintro op (plumbing | ⟨_, _, rfl⟩ | ⟨_, rfl⟩)
  · cases op with
    | moderation | billing => cases plumbing
    | _ => rfl
  · rfl
  · rfl

end Rules

/-! ## The tasks -/

/-- Why the billing task of the connection ends. -/
def BillingEnded (hub : HubState) (connId : ConnId) (past : List Event) : Prop :=
  ∃ event ∈ past, (∃ nowMs, event.op = .billing nowMs) ∧
    (connId ∈ event.dismisses hub ∨ connId ∉ event.before.connections)

theorem billingSection_ended {hub : HubState} {room : RoomState} {connId : ConnId} {nowMs : Nat}
    (ended : (billingSection hub room connId nowMs).2 = .ended) :
    room.participants.get? connId = none := by
  unfold billingSection at ended
  split at ended
  · assumption
  · next participant _ =>
      dsimp only at ended
      by_cases skipped : ((room.anonymousMode || participant.anonymousMode) &&
          (if room.anonymousMode || participant.anonymousMode then
            escrowDisconnectMessage hub.billing participant nowMs else none).isNone) = true
      · rw [if_pos skipped] at ended
        cases ended
      · rw [if_neg skipped] at ended
        dsimp only at ended
        split at ended <;> cases ended

/-- What follows the critical section of the billing task. -/
def afterBilling (hub : HubState) (connId : ConnId) : BillingOutcome → Handler Bool
  | .ended => return false
  | .goOn => return true
  | .disconnect message => do
      sendClosing connId (encodable hub (.error ⟨message⟩))
      return false

theorem keeps_sendClosing {hub : HubState} {connId : ConnId} {task : Task}
    {mayFail : List Event → Prop} {holds : List Event → Prop} (quiet : KeptByQuiet holds)
    (target : ConnId) (notice : Option KaigiFrame) :
    (sendClosing target notice).Keeps (taskContract hub connId task mayFail)
      fun world => holds world.own := by
  have close : (do let _ ← trySend target .close : Handler Unit).Keeps
      (taskContract hub connId task mayFail) fun world => holds world.own :=
    (keeps_trySend quiet target .close).bind fun _ => .done (stable_past holds) ()
  cases notice with
  | none => exact close
  | some frame => exact (keeps_trySend quiet target _).bind fun _ => close

/-- The billing task never fails, and sends the close message before it ends. -/
theorem meets_enforceBilling {hub : HubState} {connId : ConnId} (world : World)
    (dismissed : Dismissed hub world.own) :
    (enforceBilling hub connId).Meets (taskContract hub connId .billing fun _ => False)
      (fun goesOn later => Dismissed hub later.own ∧
        (goesOn = false → BillingEnded hub connId later.own)) world := by
  intro nowMs
  rintro ⟨state, past⟩ same
  obtain rfl : past = world.own := same
  refine ⟨trivial, ?_⟩
  let event : Event := ⟨connId, .billing, .billing nowMs, state⟩
  have owes : OwesClose hub (event :: world.own) fun target => target ∈ event.dismisses hub := by
    refine dismissed.cons event ?_
    rintro target (⟨_, member⟩ | ⟨impossible, _⟩)
    · exact member
    · exact impossible.elim
  have quiet : event.dismisses hub = [] → Dismissed hub (event :: world.own) := by
    intro none
    refine owes.mono fun target member => ?_
    rw [none] at member
    cases member
  change Process.Meets (taskContract hub connId .billing fun _ => False) _ (afterBilling hub connId
    ((state.room.map fun room => (billingSection hub room connId nowMs).2).getD .ended))
    (⟨(Operation.billing nowMs).apply hub connId state, event :: world.own⟩ : World)
  generalize shows :
    (state.room.map fun room => (billingSection hub room connId nowMs).2).getD .ended = outcome
  have decided : event.dismisses hub = outcome.dismissed connId := by
    rw [← shows]
    rfl
  cases outcome with
  | ended =>
      rintro ⟨later, past⟩ same
      obtain rfl : past = event :: world.own := same
      refine ⟨quiet decided, fun _ => ⟨event, List.mem_cons_self, ⟨nowMs, rfl⟩, .inr ?_⟩⟩
      cases found : state.room with
      | none => simp [event, HubRoom.connections, found]
      | some room =>
          have ended : (billingSection hub room connId nowMs).2 = .ended := by
            simpa [found] using shows
          rw [HubRoom.connections_of_some found, HashMap.mem_keys, billingSection_ended ended]
          exact Bool.false_ne_true
  | goOn =>
      rintro ⟨later, past⟩ same
      obtain rfl : past = event :: world.own := same
      exact ⟨quiet decided, fun stops => Bool.noConfusion stops⟩
  | disconnect message =>
      have settles : SettlesClose hub connId .billing (fun _ => False)
          (fun target => target ∈ event.dismisses hub) (fun _ => False)
          (afterBilling hub connId (.disconnect message)) := by
        refine ((settlesClose_sendClosing connId _).bind fun _ =>
          (settlesClose_done false)).mono (fun _ => id) ?_
        rintro target ⟨member, unlike⟩
        rw [decided] at member
        exact unlike (List.mem_singleton.mp member)
      have remembered : KeptByQuiet fun past => event ∈ past :=
        fun _ _ _ member => List.mem_cons_of_mem _ member
      have remembers : (afterBilling hub connId (.disconnect message)).Keeps
          (taskContract hub connId .billing fun _ => False) fun world => event ∈ world.own :=
        (keeps_sendClosing remembered connId _).bind fun _ => .done (stable_past _) _
      have dismisses : connId ∈ event.dismisses hub := by
        rw [decided]
        exact List.mem_singleton_self connId
      refine ((settles ⟨_, _⟩ owes).and (remembers ⟨_, _⟩ List.mem_cons_self)).mono ?_
      rintro goesOn later ⟨settled, member⟩
      exact ⟨settled, fun _ => ⟨event, member, ⟨nowMs, rfl⟩, .inl dismisses⟩⟩

end Kaigi.Hub
