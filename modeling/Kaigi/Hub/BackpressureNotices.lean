import Kaigi.Hub.Backpressure

/-!
# Backpressure notices

A room that learns of refused offers makes a notice of it for its moderators, though not more often
than every five seconds. The task that has made a notice looks up the moderators next and offers it
to each of them.
-/

set_option autoImplicit false

namespace Kaigi.Hub

open Collections Wire Interleaving

/-! ### When a notice is made -/

section Made

variable {hub : HubState} {history : List Event} {system : System}

/-- The notice for the moderators that the event makes, with its time. -/
def Event.notice (event : Event) : Option (Nat × String) :=
  match event.op with
  | .backpressure dropped nowMs =>
      event.before.room.bind fun room =>
        (backpressureSection room dropped nowMs).2.map fun notice => (nowMs, notice)
  | _ => none

theorem Event.notice_of_other {event : Event}
    (other : ∀ dropped nowMs, event.op ≠ .backpressure dropped nowMs) : event.notice = none := by
  unfold Event.notice
  split
  · next dropped nowMs op => exact absurd op (other dropped nowMs)
  · rfl

theorem backpressureSection_notice {room : RoomState} {dropped nowMs : Nat} {notice : String} :
    (backpressureSection room dropped nowMs).2 = some notice ↔
      backpressureNoticeMinIntervalMs ≤ nowMs - room.backpressureLastNoticeAtMs ∧
        notice = s!"backpressure: dropped fanout to {dropped} participant(s); " ++
          s!"total_dropped={saturatingAdd room.backpressureDroppedMessages dropped}" := by
  unfold backpressureSection
  dsimp only
  split
  · next due =>
      constructor
      · intro made
        cases made
        exact ⟨due, rfl⟩
      · rintro ⟨_, rfl⟩
        rfl
  · next early =>
      constructor
      · intro made
        cases made
      · exact fun made => absurd made.1 early

theorem Event.notice_eq_some {event : Event} {nowMs : Nat} {text : String} :
    event.notice = some (nowMs, text) ↔
      ∃ dropped room, event.op = .backpressure dropped nowMs ∧ event.before.room = some room ∧
        backpressureNoticeMinIntervalMs ≤ nowMs - room.backpressureLastNoticeAtMs ∧
          text = s!"backpressure: dropped fanout to {dropped} participant(s); " ++
            s!"total_dropped={saturatingAdd room.backpressureDroppedMessages dropped}" := by
  unfold Event.notice
  split
  · next dropped atMs op =>
      constructor
      · intro made
        obtain ⟨room, found, noticed⟩ := Option.bind_eq_some_iff.mp made
        obtain ⟨notice, given, equal⟩ := Option.map_eq_some_iff.mp noticed
        cases equal
        exact ⟨dropped, room, op, found, backpressureSection_notice.mp given⟩
      · rintro ⟨count, room, same, found, given⟩
        rw [op] at same
        cases same
        rw [found, Option.bind_some, backpressureSection_notice.mpr given]
        rfl
  · next other =>
      constructor
      · intro made
        cases made
      · rintro ⟨dropped, room, op, _⟩
        exact absurd op (other dropped nowMs)

/-- The time of a notice is the time the room remembers, and otherwise it remembers what it did. -/
theorem Event.lastNotice {event : Event} {room after : RoomState}
    (found : event.before.room = some room) (left : (event.after hub).room = some after) :
    (event.notice = none ∧ after.backpressureLastNoticeAtMs = room.backpressureLastNoticeAtMs) ∨
      ∃ nowMs text, event.notice = some (nowMs, text) ∧
        after.backpressureLastNoticeAtMs = nowMs ∧
        room.backpressureLastNoticeAtMs + backpressureNoticeMinIntervalMs ≤ nowMs := by
  have step := Event.settingsStep found left
  obtain ⟨actor, task, op, before⟩ := event
  dsimp only at found step
  generalize made : settingsOf after = settings at step
  have remembers := congrArg Settings.backpressureLastNoticeAtMs made
  change after.backpressureLastNoticeAtMs = _ at remembers
  cases step with
  | kept other _ => exact .inl ⟨Event.notice_of_other other, remembers⟩
  | configured | turnedAway | surcharged =>
      exact .inl ⟨Event.notice_of_other (fun _ _ same => by cases same), remembers⟩
  | @quiet dropped nowMs early =>
      refine .inl ⟨?_, remembers⟩
      cases notified : (backpressureSection room dropped nowMs).2 with
      | none => simp [Event.notice, found, notified]
      | some text =>
          exact absurd (backpressureSection_notice.mp notified).1 (Nat.not_le_of_lt early)
  | @noticed dropped nowMs due =>
      refine .inr ⟨nowMs, _, Event.notice_eq_some.mpr ⟨dropped, room, rfl, found, due, rfl⟩,
        remembers, ?_⟩
      · simp only [backpressureNoticeMinIntervalMs] at due ⊢
        omega

/-- A room that remembers a notice got it from an event since it opened. -/
theorem Trace.lastNotice (trace : Trace hub history) {room : RoomState}
    (found : (sharedAfter hub history).room = some room)
    (noticed : 0 < room.backpressureLastNoticeAtMs) :
    ∃ newer event older text, history = newer ++ event :: older ∧
      event.notice = some (room.backpressureLastNoticeAtMs, text) ∧
      Persists hub newer (event :: older) := by
  induction trace generalizing room with
  | start => cases found
  | @step earlier event past same lawful ih =>
      cases before : event.before.room with
      | none =>
          have opened := congrArg Settings.backpressureLastNoticeAtMs
            (Event.settings_opened before found)
          change room.backpressureLastNoticeAtMs = 0 at opened
          omega
      | some old =>
          rcases Event.lastNotice before found with ⟨_, kept⟩ | ⟨nowMs, text, made, kept, _⟩
          · obtain ⟨newer, first, older, text, rfl, made, persists⟩ :=
              ih (same ▸ before) (kept ▸ noticed)
            exact ⟨event :: newer, first, older, text, rfl, kept ▸ made, persists.cons found⟩
          · refine ⟨[], event, earlier, text, rfl, kept ▸ made, ?_⟩
            intro rest front
            rw [List.suffix_nil.mp front]
            exact Option.ne_none_iff_exists'.mpr ⟨room, found⟩

end Made

/-! ### Passing a notice on -/

/-- The moderators that the room names. -/
def HubRoom.moderators (state : HubRoom) : List ConnId :=
  (state.room.map moderatorTargets).getD []

/-- After each notice of the past the task has looked at the room, and has offered the notice to
every moderator that it saw, apart from the `pending` offers. -/
def OwesNotices (past : List Event) (pending : String → ConnId → Prop) : Prop :=
  ∀ later event earlier nowMs text, past = later ++ event :: earlier →
    event.notice = some (nowMs, text) → ∃ offers look, later = offers ++ [look] ∧
      look.op = .read ∧ ∀ target ∈ look.before.moderators,
        (∃ offer ∈ offers, offer.op = .trySend target (.binary (.error ⟨text⟩))) ∨
          pending text target

/-- Every notice has been passed on. -/
def NoticesTold (past : List Event) : Prop :=
  OwesNotices past fun _ _ => False

section Owes

variable {past : List Event} {pending weaker : String → ConnId → Prop} {event look : Event}

theorem OwesNotices.mono (owes : OwesNotices past pending)
    (imp : ∀ text target, pending text target → weaker text target) :
    OwesNotices past weaker := by
  intro later event earlier nowMs text split made
  obtain ⟨offers, look, same, read, told⟩ := owes later event earlier nowMs text split made
  exact ⟨offers, look, same, read, fun target member => (told target member).imp_right (imp _ _)⟩

/-- An offer passes on what was pending, and what makes no notice leaves the rest. -/
theorem OwesNotices.cons (owes : OwesNotices past pending) (silent : event.notice = none)
    (imp : ∀ text target, pending text target →
      event.op ≠ .trySend target (.binary (.error ⟨text⟩)) → weaker text target) :
    OwesNotices (event :: past) weaker := by
  intro later current earlier nowMs text split made
  cases later with
  | nil =>
      cases split
      rw [silent] at made
      cases made
  | cons latest rest =>
      cases split
      obtain ⟨offers, look, rfl, read, told⟩ := owes rest current earlier nowMs text rfl made
      refine ⟨event :: offers, look, rfl, read, ?_⟩
      intro target member
      rcases told target member with ⟨offer, among, offered⟩ | left
      · exact .inl ⟨offer, List.mem_cons_of_mem _ among, offered⟩
      · by_cases offered : event.op = .trySend target (.binary (.error ⟨text⟩))
        · exact .inl ⟨event, List.mem_cons_self, offered⟩
        · exact .inr (imp text target left offered)

theorem OwesNotices.quiet (owes : OwesNotices past pending) (silent : event.notice = none) :
    OwesNotices (event :: past) pending :=
  owes.cons silent fun _ _ left _ => left

/-- The look after a notice shows to whom it is owed. -/
theorem NoticesTold.looked (told : NoticesTold past) {nowMs : Nat} {text : String}
    (made : event.notice = some (nowMs, text)) (read : look.op = .read) :
    OwesNotices (look :: event :: past) fun owed target =>
      owed = text ∧ target ∈ look.before.moderators := by
  intro later current earlier atMs owed split notified
  cases later with
  | nil =>
      cases split
      rw [Event.notice_of_other (by intro _ _ same; rw [read] at same; cases same)] at notified
      cases notified
  | cons latest rest =>
      cases rest with
      | nil =>
          cases split
          rw [made] at notified
          cases notified
          exact ⟨[], _, rfl, read, fun target member => .inr ⟨rfl, member⟩⟩
      | cons second rest =>
          cases split
          obtain ⟨offers, first, rfl, looked, offered⟩ :=
            told rest current earlier atMs owed rfl notified
          refine ⟨_ :: _ :: offers, first, rfl, looked, ?_⟩
          intro target member
          rcases offered target member with ⟨offer, among, sends⟩ | impossible
          · exact .inl ⟨offer, List.mem_cons_of_mem _ (List.mem_cons_of_mem _ among), sends⟩
          · exact impossible.elim

theorem noticesTold_nil : NoticesTold [] :=
  fun later _ _ _ _ split => by cases later <;> cases split

end Owes

/-- Where a task may fail: nothing stopped its handler while a notice was to be passed on, unless
there is none. -/
abbrev NoticeExcused : HubState → List Event → Prop :=
  fun hub => Excused NoticesTold (Event.Spares hub)

section Passing

variable {hub : HubState} {connId : ConnId}

/-- The contract of a task that passes its notices on. -/
abbrev noticeContract (hub : HubState) (connId : ConnId) :
    Contract HubRoom World Operation HubError :=
  taskContract hub connId .connection (NoticeExcused hub)

/-- What stands while a notice is passed on: it can be encoded, or has stopped the handler. -/
def Passes (hub : HubState) (text : String) (pending : String → ConnId → Prop)
    (past : List Event) : Prop :=
  OwesNotices past pending ∧
    (encodable hub (.error ⟨text⟩) = none → NoticeExcused hub past)

theorem Passes.quiet {text : String} {pending : String → ConnId → Prop} {past : List Event}
    {event : Event} (passes : Passes hub text pending past) (silent : event.notice = none) :
    Passes hub text pending (event :: past) :=
  ⟨passes.1.quiet silent, fun unsent => (passes.2 unsent).cons fun told => told.quiet silent⟩

/-- One moderator is told. -/
theorem meets_tell {text : String} {pending : String → ConnId → Prop} (target : ConnId)
    {world : World} (passes : Passes hub text pending world.own) :
    (sendFrameTo hub target (.error ⟨text⟩)).Meets (noticeContract hub connId)
      (fun _ later => Passes hub text (fun owed other => pending owed other ∧
        ¬(owed = text ∧ other = target)) later.own) world := by
  have encodes : (encodeOrFail hub (.error ⟨text⟩)).Keeps (noticeContract hub connId)
      fun world => Passes hub text pending world.own :=
    keeps_encodeOrFail fun unsent _ here => here.2 unsent
  have looks : (lookupSender target).Keeps (noticeContract hub connId)
      fun world => Passes hub text pending world.own :=
    keeps_lookupSender (Passes hub text pending) (fun _ _ here => here.quiet rfl)
      fun _ _ absent _ => .of_stopped absent
  refine (encodes world passes).bind fun _ _ here => (looks _ here).bind fun _ world here => ?_
  intro later same
  rw [← same] at here
  refine ⟨trivial, ?_⟩
  refine Process.Keeps.done (stable_past (Passes hub text _)) () _ ⟨here.1.cons rfl ?_, ?_⟩
  · intro owed other left unsent
    refine ⟨left, ?_⟩
    rintro ⟨rfl, rfl⟩
    exact unsent rfl
  · exact fun unencodable => (here.2 unencodable).cons fun told => told.quiet rfl

/-- Everybody who is to be told is told. -/
theorem meets_tellEach {text : String} (targets : List ConnId) {world : World}
    (passes : Passes hub text (fun owed target => owed = text ∧ target ∈ targets) world.own) :
    (Process.each targets fun target => sendFrameTo hub target (.error ⟨text⟩)).Meets
      (noticeContract hub connId) (fun _ later => NoticesTold later.own) world := by
  induction targets generalizing world with
  | nil =>
      refine Process.Keeps.done (stable_past NoticesTold) () _ (passes.1.mono ?_)
      intro _ _ left
      cases left.2
  | cons target rest ih =>
      refine (meets_tell target passes).bind fun _ _ here => ih ⟨here.1.mono ?_, here.2⟩
      intro owed other left
      obtain ⟨⟨same, member⟩, unlike⟩ := left
      exact ⟨same, (List.mem_cons.mp member).resolve_left fun equal => unlike ⟨same, equal⟩⟩

/-- The program passes on the notices that it makes. -/
abbrev KeepsNotices (hub : HubState) (connId : ConnId) {Value : Type} (program : Handler Value) :
    Prop :=
  program.Keeps (noticeContract hub connId) fun world => NoticesTold world.own

theorem keepsNotices_afterFanout (dropped : Nat) :
    KeepsNotices hub connId (afterFanout hub dropped) := by
  refine keeps_afterFanout NoticesTold dropped ?_ ?_
  · intro nowMs state past told quiet
    refine told.quiet ?_
    simpa [Event.notice] using quiet
  · intro nowMs state past notice world told shows own stopped
    obtain ⟨room, found, noticed⟩ := Option.bind_eq_some_iff.mp shows
    have made : Event.notice ⟨connId, .connection, .backpressure dropped nowMs, state⟩ =
        some (nowMs, notice) := by
      simp [Event.notice, found, noticed]
    intro seen same
    have kept : seen.own = world.own := same
    refine ⟨trivial, meets_tellEach _ ⟨?_, ?_⟩⟩
    · change OwesNotices (⟨connId, .connection, .read, seen.shared⟩ :: seen.own) _
      rw [kept, own]
      exact told.looked made rfl
    · intro unsent
      change NoticeExcused hub (⟨connId, .connection, .read, seen.shared⟩ :: seen.own)
      rw [kept]
      exact (stopped unsent).cons fun told => told.quiet rfl

/-- What is no part of a broadcast makes no notice. -/
theorem silent_of_plain {state : HubRoom} {op : Operation} (plain : op.isBroadcast = false) :
    Event.notice ⟨connId, .connection, op, state⟩ = none := by
  refine Event.notice_of_other fun dropped nowMs same => ?_
  rw [show op = .backpressure dropped nowMs from same] at plain
  cases plain

theorem keepsNotices_atomic {Value : Type} {op : Operation} {next : HubRoom → Handler Value}
    (plain : op.isBroadcast = false) (rest : ∀ state, KeepsNotices hub connId (next state)) :
    KeepsNotices hub connId (.atomic op next) :=
  .atomic (stable_past NoticesTold) (fun _ _ => trivial)
    (fun _ told => told.quiet (silent_of_plain plain)) rest

theorem partRules_notices : PartRules (KeepsNotices hub connId) where
  done := .done (stable_past NoticesTold)
  fail _ _ told := fun _ => told
  ask := .ask
  atomic part := keepsNotices_atomic (Operation.isPart_stays part).1
  bind := .bind

theorem keepsNotices_fanout {message : Message} {targets : List ConnId} {dropped : Nat} :
    KeepsNotices hub connId (fanoutTo message targets dropped) := by
  induction targets generalizing dropped with
  | nil => exact partRules_notices.done dropped
  | cons target rest ih =>
      exact .bind (keepsNotices_atomic rfl fun _ => partRules_notices.done _) fun _ => ih

theorem keepsNotices_broadcastFrame (frame : KaigiFrame) :
    KeepsNotices hub connId (broadcastFrame hub frame) := by
  refine .bind (partRules_notices.encodeOrFail frame) fun _ => ?_
  have looks : KeepsNotices hub connId
      (critical (.fanout frame) fun room => room.map fun room => room.participants.keys) :=
    keeps_perform NoticesTold fun _ _ told => told.quiet rfl
  refine .bind looks fun senders => ?_
  cases senders with
  | none => exact partRules_notices.done ()
  | some senders => exact .bind keepsNotices_fanout fun dropped => keepsNotices_afterFanout dropped

theorem handlerRules_notices : HandlerRules hub (fun _ => True) (KeepsNotices hub connId) :=
  { partRules_notices with
    broadcast := fun {frame} _ => keepsNotices_broadcastFrame frame
    managed := fun _ => trivial
    ack := fun _ _ => keepsNotices_atomic rfl fun _ => partRules_notices.done _ }

/-- Between two handlers a connection task has passed its notices on. -/
theorem settling_notices (hub : HubState) (connId : ConnId) :
    Settling hub connId NoticesTold (NoticeExcused hub) fun _ => True where
  start := noticesTold_nil
  connects _ _ _ told := told.quiet rfl
  pongs _ _ _ told := told.quiet rfl
  stops _ told := fun _ => told
  handles frame world _ told :=
    handlerRules_notices.handleFrame frame (fun _ _ => trivial) world told
  leaves world told := handlerRules_notices.handleDisconnect (fun _ => trivial)
    (fun _ _ => keepsNotices_atomic rfl) world told

end Passing

/-! ### Every run -/

section Runs

variable {hub : HubState} {history newer older : List Event} {system : System} {event : Event}

/-- A notice states the drops of its broadcast, and the sum since the room opened. -/
theorem Run.notice_exact (run : Run hub history system) (split : history = newer ++ event :: older)
    {nowMs : Nat} {text : String} (notified : event.notice = some (nowMs, text)) :
    ∃ dropped, event.op = .backpressure dropped nowMs ∧ 0 < dropped ∧
      text = s!"backpressure: dropped fanout to {dropped} participant(s); " ++
        s!"total_dropped={min (droppedSince (event :: older)) u64Max}" := by
  obtain ⟨trace, _⟩ := run.trace
  obtain ⟨past, same, lawful⟩ := (split ▸ trace).lawful
  obtain ⟨dropped, room, op, found, _, rfl⟩ := Event.notice_eq_some.mp notified
  refine ⟨dropped, op, ?_, ?_⟩
  · have task : event.task = .connection := lawful.ownTask (by rw [op]; rfl)
    rcases run.admitsRound split task with
      ⟨_, connects⟩ | admitted
    · rw [op] at connects
      cases connects
    · rw [op] at admitted
      exact admitted.dropped_pos
  · have counted := past.droppedMessages (same ▸ found)
    have total : saturatingAdd room.backpressureDroppedMessages dropped =
        min (droppedSince (event :: older)) u64Max := by
      simp only [droppedSince, found, Event.drops, op, counted, saturatingAdd]
      omega
    rw [total]

/-- Two notices of a room that persists are at least five seconds apart. -/
theorem Run.notice_apart (run : Run hub history system) {second first : Event}
    {middle : List Event} (split : history = newer ++ second :: (middle ++ first :: older))
    (persists : Persists hub middle (first :: older)) {firstAtMs secondAtMs : Nat}
    {firstText secondText : String} (firstMade : first.notice = some (firstAtMs, firstText))
    (secondMade : second.notice = some (secondAtMs, secondText)) :
    firstAtMs + backpressureNoticeMinIntervalMs ≤ secondAtMs := by
  obtain ⟨trace, _⟩ := run.trace
  obtain ⟨past, same, _⟩ := (split ▸ trace).lawful
  obtain ⟨_, before, _, was, _⟩ := Event.notice_eq_some.mp firstMade
  obtain ⟨_, room, _, found, due, _⟩ := Event.notice_eq_some.mp secondMade
  -- The time that the room remembers only grows while it persists.
  have remembered : firstAtMs ≤ room.backpressureLastNoticeAtMs := by
    refine past.persisting (fun _ room => firstAtMs ≤ room.backpressureLastNoticeAtMs) ?_ ?_
      persists (same ▸ found)
    · intro after left
      rcases Event.lastNotice was left with ⟨silent, _⟩ | ⟨nowMs, _, made, kept, _⟩
      · rw [firstMade] at silent
        cases silent
      · rw [firstMade] at made
        cases made
        exact Nat.le_of_eq kept.symm
    · intro rest event room after _ _ found left ih
      rcases Event.lastNotice found left with ⟨_, kept⟩ | ⟨nowMs, _, _, kept, later⟩
      · exact kept ▸ ih
      · rw [kept]
        exact ih.trans ((Nat.le_add_right _ _).trans later)
  simp only [backpressureNoticeMinIntervalMs] at due ⊢
  omega

/-- Only a notice that would come too soon is not made. -/
theorem Run.notice_skipped (run : Run hub history system)
    (split : history = newer ++ event :: older) {dropped nowMs : Nat}
    (op : event.op = .backpressure dropped nowMs) (opened : event.before.room ≠ none)
    (silent : event.notice = none) :
    nowMs < backpressureNoticeMinIntervalMs ∨
      ∃ middle first past firstAtMs text, older = middle ++ first :: past ∧
        Persists hub middle (first :: past) ∧ first.notice = some (firstAtMs, text) ∧
          nowMs < firstAtMs + backpressureNoticeMinIntervalMs := by
  obtain ⟨trace, _⟩ := run.trace
  obtain ⟨past, same, _⟩ := (split ▸ trace).lawful
  obtain ⟨room, found⟩ := Option.ne_none_iff_exists'.mp opened
  have early : nowMs - room.backpressureLastNoticeAtMs < backpressureNoticeMinIntervalMs := by
    refine Nat.lt_of_not_le fun due => ?_
    rw [Event.notice_eq_some.mpr ⟨dropped, room, op, found, due, rfl⟩] at silent
    cases silent
  rcases Nat.eq_zero_or_pos room.backpressureLastNoticeAtMs with never | noticed
  · exact .inl (by rw [never] at early; exact early)
  · obtain ⟨middle, first, past', text, split', made, persists⟩ :=
      past.lastNotice (same ▸ found) noticed
    refine .inr ⟨middle, first, past', _, text, split', persists, made, ?_⟩
    simp only [backpressureNoticeMinIntervalMs] at early ⊢
    omega

/-- Whoever has made a notice has passed it on, once its handler is over. -/
theorem Run.notice_told (run : Run hub history system) (split : history = newer ++ event :: older)
    {nowMs : Nat} {text : String} (made : event.notice = some (nowMs, text))
    {connection : Connection} (known : system.connections event.connId = some connection)
    (finished : connection.phase.isSettled = true ∨ connection.phase.isIdle = true ∧
      Unstopped NoticesTold (Event.Spares hub) (own event.connId .connection history)) :
    ∃ offers look, own event.connId .connection newer = offers ++ [look] ∧ look.op = .read ∧
      ∀ target ∈ look.before.moderators, ∃ offer ∈ offers,
        offer.op = .trySend target (.binary (.error ⟨text⟩)) := by
  have task : event.task = .connection := by
    obtain ⟨dropped, _, op, _⟩ := Event.notice_eq_some.mp made
    obtain ⟨trace, _⟩ := run.trace
    obtain ⟨_, _, lawful⟩ := (split ▸ trace).lawful
    exact lawful.ownTask (by rw [op]; rfl)
  have settles : TaskSettles hub event.connId NoticesTold (NoticeExcused hub) history system :=
    (settling_notices hub event.connId).run (fun _ _ _ _ _ _ _ _ _ _ _ => trivial)
      run.unrestricted
  have stands := settles.2 connection known
  have told : NoticesTold (own event.connId .connection history) := by
    rcases finished with settled | ⟨idle, unstopped⟩
    · exact stands.settled settled
    · exact stands.settled_of_idle idle unstopped
  have parts : own event.connId .connection history =
      own event.connId .connection newer ++ event :: own event.connId .connection older := by
    obtain ⟨actor, acts, op, before⟩ := event
    cases task
    rw [split, own_append, own_cons_self]
  obtain ⟨offers, look, same, read, offered⟩ := told _ event _ nowMs text parts made
  exact ⟨offers, look, same, read, fun target member =>
    (offered target member).resolve_right id⟩

/-- A room makes notices of dropped frames for its moderators, at most one in five seconds; only
the notices that would come sooner are left out, and each gives the exact count. The task that
has made one looks up the moderators next, and offers it to each of them, unless its handler is
stopped on the way. -/
theorem backpressure_notices (run : Run hub history system) :
    (∀ newer event older nowMs text, history = newer ++ event :: older →
      event.notice = some (nowMs, text) → ∃ dropped,
        event.op = .backpressure dropped nowMs ∧ 0 < dropped ∧
          text = s!"backpressure: dropped fanout to {dropped} participant(s); " ++
            s!"total_dropped={min (droppedSince (event :: older)) u64Max}") ∧
    (∀ newer second middle first older secondAtMs firstAtMs secondText firstText,
      history = newer ++ second :: (middle ++ first :: older) →
      Persists hub middle (first :: older) → first.notice = some (firstAtMs, firstText) →
      second.notice = some (secondAtMs, secondText) →
        firstAtMs + backpressureNoticeMinIntervalMs ≤ secondAtMs) ∧
    (∀ newer event older dropped nowMs, history = newer ++ event :: older →
      event.op = .backpressure dropped nowMs → event.before.room ≠ none → event.notice = none →
        nowMs < backpressureNoticeMinIntervalMs ∨
        ∃ middle first past firstAtMs text, older = middle ++ first :: past ∧
          Persists hub middle (first :: past) ∧ first.notice = some (firstAtMs, text) ∧
            nowMs < firstAtMs + backpressureNoticeMinIntervalMs) ∧
    ∀ newer event older nowMs text connection, history = newer ++ event :: older →
      event.notice = some (nowMs, text) → system.connections event.connId = some connection →
      (connection.phase.isSettled = true ∨ connection.phase.isIdle = true ∧
        Unstopped NoticesTold (Event.Spares hub) (own event.connId .connection history)) →
        ∃ offers look, own event.connId .connection newer = offers ++ [look] ∧
          look.op = .read ∧ ∀ target ∈ look.before.moderators, ∃ offer ∈ offers,
            offer.op = .trySend target (.binary (.error ⟨text⟩)) := by
  refine ⟨?_, ?_, ?_, ?_⟩
  · intro newer event older nowMs text split notified
    exact run.notice_exact split notified
  · intro newer second middle first older secondAtMs firstAtMs secondText firstText split persists
    exact run.notice_apart split persists
  · intro newer event older dropped nowMs split
    exact run.notice_skipped split
  · intro newer event older nowMs text connection split made known
    exact run.notice_told split made known

/-- The first notice, and the look after it, in which alice is a moderator. -/
def noticesCheck (history : List Event) (system : System) : Bool :=
  match history.drop 17 with
  | look :: event :: _ =>
      event.notice.isSome && event.connId == 1 && look.connId == 1 && look.task == .connection &&
        look.before.moderators.contains 1 &&
        (system.connections 1).any fun connection => connection.phase.isSettled
  | _ => false

/-- Alice is offered the notice that her joining causes. -/
theorem backpressure_notices_script :
    ∃ history system event nowMs text, Run backpressureHub history system ∧ event ∈ history ∧
      event.notice = some (nowMs, text) ∧
      ∃ offer ∈ history, offer.op = .trySend 1 (.binary (.error ⟨text⟩)) := by
  obtain ⟨history, system, run, checks⟩ :=
    Run.of_played backpressureHub backpressureScript noticesCheck (by decide +kernel)
  unfold noticesCheck at checks
  split at checks
  · next look event older after =>
      simp only [Bool.and_eq_true, beq_iff_eq, Option.any_eq_true, List.contains_iff_mem] at checks
      obtain ⟨⟨⟨⟨⟨notified, alice⟩, looker⟩, task⟩, host⟩, connection, known, settled⟩ := checks
      obtain ⟨⟨nowMs, text⟩, made⟩ := Option.isSome_iff_exists.mp notified
      have split : history = (history.take 17 ++ [look]) ++ event :: older := by
        rw [List.append_assoc, List.singleton_append, ← after, List.take_append_drop]
      obtain ⟨offers, seen, same, _, told⟩ := (backpressure_notices run).2.2.2 _ event older nowMs
        text connection split made (alice ▸ known) (.inl settled)
      have first : own event.connId .connection (history.take 17 ++ [look]) =
          own event.connId .connection (history.take 17) ++ [look] := by
        rw [own_append]
        simp [own, alice, looker, task]
      obtain ⟨among, last⟩ := List.append_inj' (first.symm.trans same) rfl
      cases last
      obtain ⟨offer, member, offered⟩ := told 1 host
      have happened : offer ∈ history := by
        rw [← among] at member
        exact List.mem_of_mem_take (List.mem_of_mem_filter member)
      refine ⟨history, system, event, nowMs, text, run, ?_, made, offer, happened, offered⟩
      rw [split]
      exact List.mem_append_right _ List.mem_cons_self
  · cases checks

end Runs

end Kaigi.Hub
