import Kaigi.Hub.FrameOperations
import Kaigi.Hub.HandlerRules
import Kaigi.Hub.Integrity
import Kaigi.Hub.SenderAuthenticity

/-!
# Negotiated media profiles

HDR is offered to a room only if the sender has said that it can capture it, and somebody else who
has joined that it can render it. The hub checks the sender, reads the room again to resolve the
profile, and broadcasts after that, when the room may have changed.
-/

set_option autoImplicit false

namespace Kaigi.Hub

open Collections Wire Interleaving

/-- The latest device capability that the connection has announced. -/
def lastCapability (connId : ConnId) : List Event → Option DeviceCapabilityFrame
  | [] => none
  | event :: earlier =>
    match event.op with
    | .deviceCapability cap =>
        if event.connId = connId then some cap else lastCapability connId earlier
    | _ => lastCapability connId earlier

/-! ### What the room stores -/

section Stored

variable {hub : HubState} {room after : RoomState} {actor connId : ConnId} {op : Operation}

/-- What an operation of `actor` does to the stored device capabilities. -/
inductive CapabilityStep (room : RoomState) (actor : ConnId) : Operation → RoomState → Prop where
  | stored {cap : DeviceCapabilityFrame} {after : RoomState} :
      after.deviceCapsByConn = room.deviceCapsByConn.put actor cap →
      CapabilityStep room actor (.deviceCapability cap) after
  | dropped {deltaAtMs leftAtMs : Nat} {after : RoomState} :
      after.deviceCapsByConn = room.deviceCapsByConn.remove actor →
      after.participants.get? actor = none →
      CapabilityStep room actor (.disconnect deltaAtMs leftAtMs) after
  | kept {op : Operation} {after : RoomState} :
      after.deviceCapsByConn = room.deviceCapsByConn → (∀ cap, op ≠ .deviceCapability cap) →
      CapabilityStep room actor op after

theorem LedgerStep.capabilityStep {accepted : Option SignedAction}
    (step : LedgerStep hub room actor op accepted after)
    (other : ∀ cap, op ≠ .deviceCapability cap) : CapabilityStep room actor op after := by
  cases step with
  | kept _ same => exact .kept (congrArg Ledger.deviceCaps same) other
  | left same gone => exact .dropped (congrArg Ledger.deviceCaps same) gone
  | @capable cap => exact absurd rfl (other cap)
  | joined same | roleGrant _ _ same | roleRevoke _ _ same | policy _ _ _ same =>
      exact .kept (congrArg Ledger.deviceCaps same) other
  | keyEpoch _ _ _ _ same | ackEpoch _ _ _ _ _ _ same | moderated _ _ _ _ same =>
      exact .kept (congrArg Ledger.deviceCaps same) other
  | admitted _ _ _ same | denied _ _ _ _ _ same =>
      exact .kept (congrArg Ledger.deviceCaps same) other

theorem Event.capabilityStep {event : Event} (left : (event.after hub).room = some after) :
    CapabilityStep (event.before.opened hub) event.connId event.op after := by
  by_cases stores : ∃ cap, event.op = .deviceCapability cap
  · obtain ⟨cap, op⟩ := stores
    obtain ⟨actor, task, _, state⟩ := event
    obtain rfl : _ = Operation.deviceCapability cap := op
    obtain ⟨room, found, rfl⟩ := Option.map_eq_some_iff.mp left
    rw [HubRoom.opened_of_some found]
    exact .stored rfl
  · exact (Event.ledgerStep left).capabilityStep fun cap same => stores ⟨cap, same⟩

variable {history : List Event}

theorem lastCapability_cons {event : Event} (other : ∀ cap, event.op ≠ .deviceCapability cap) :
    lastCapability connId (event :: history) = lastCapability connId history := by
  rw [lastCapability]
  split
  · next cap op => exact absurd op (other cap)
  · rfl

/-- What is stored is what its connection has announced last. -/
theorem Trace.declared (trace : Trace hub history) {cap : DeviceCapabilityFrame}
    (found : (sharedAfter hub history).room = some room)
    (stored : room.deviceCapsByConn.get? connId = some cap) :
    lastCapability connId history = some cap := by
  induction trace generalizing room cap with
  | start => cases found
  | @step earlier event past before lawful ih =>
      have known : ∀ {cap}, (event.before.opened hub).deviceCapsByConn.get? connId = some cap →
          lastCapability connId earlier = some cap := by
        intro cap stored
        cases present : event.before.room with
        | none =>
            rw [HubRoom.opened, present] at stored
            cases stored
        | some room =>
            rw [HubRoom.opened_of_some present] at stored
            exact ih (before ▸ present) stored
      have step := Event.capabilityStep found
      generalize op : event.op = current at step
      cases step with
      | @stored cap _ caps =>
          rw [caps, HashMap.get?_put] at stored
          rw [lastCapability, op]
          dsimp only
          split at stored
          · next same => rw [if_pos same.symm, stored]
          · next other =>
              rw [if_neg (Ne.symm other)]
              exact known stored
      | dropped caps =>
          rw [caps, HashMap.get?_remove] at stored
          split at stored
          · cases stored
          · rw [lastCapability_cons (by rw [op]; exact fun _ same => by cases same)]
            exact known stored
      | kept caps other =>
          rw [caps] at stored
          rw [lastCapability_cons (op ▸ other)]
          exact known stored

theorem Trace.lastCapability_of_not_connected (trace : Trace hub history)
    (stores : ∀ event ∈ history, ∀ cap, event.op = .deviceCapability cap →
      event.before.hasJoined event.connId = true)
    (unknown : ¬ Connected history connId) : lastCapability connId history = none := by
  refine trace.untold (fun past => (∀ event ∈ past, ∀ cap, event.op = .deviceCapability cap →
    event.before.hasJoined event.connId = true) → lastCapability connId past = none)
      (fun _ => rfl) ?_ unknown stores
  intro event earlier absent ih stores
  have nothing := ih fun other member => stores other (List.mem_cons_of_mem _ member)
  rw [lastCapability]
  split
  · next cap op =>
      split
      · next same =>
          obtain ⟨room, found, joined⟩ := HubRoom.hasJoined_iff.mp
            (stores event List.mem_cons_self cap op)
          obtain ⟨participant, present⟩ := Option.ne_none_iff_exists'.mp
            (RoomState.present_of_joined joined)
          exact absurd (HubRoom.mem_connections found (same ▸ present)) absent
      · exact nothing
  · exact nothing

/-- Of whoever is in the room, it stores what was announced last. -/
theorem Trace.remembers (trace : Trace hub history)
    (stores : ∀ event ∈ history, ∀ cap, event.op = .deviceCapability cap →
      event.before.hasJoined event.connId = true)
    (found : (sharedAfter hub history).room = some room)
    (present : room.participants.get? connId ≠ none) :
    room.deviceCapsByConn.get? connId = lastCapability connId history := by
  have whole := trace
  induction trace generalizing room with
  | start => cases found
  | @step earlier event past before lawful ih =>
      have storesToo := fun other member => stores other (List.mem_cons_of_mem event member)
      rcases lawful.keys found (HashMap.mem_keys.mpr (Option.isSome_iff_ne_none.mpr present)) with
        stays | ⟨rfl, connectedAtMs, connects⟩
      · obtain ⟨old, had, member⟩ := HubRoom.exists_of_mem_connections stays
        have known := ih storesToo (before ▸ had)
          (Option.isSome_iff_ne_none.mp (HashMap.mem_keys.mp member)) past
        have step := Event.capabilityStep found
        rw [HubRoom.opened_of_some had] at step
        generalize op : event.op = current at step
        cases step with
        | @stored cap _ caps =>
            rw [caps, HashMap.get?_put, lastCapability, op]
            dsimp only
            split
            · next same => rw [if_pos same.symm]
            · next other => rw [if_neg (Ne.symm other), known]
        | dropped caps gone =>
            have other : connId ≠ event.connId := by
              rintro rfl
              exact present gone
            rw [caps, HashMap.get?_remove, if_neg other, known,
              lastCapability_cons (by rw [op]; exact fun _ same => by cases same)]
        | kept caps other => rw [caps, known, lastCapability_cons (op ▸ other)]
      · have nothing : lastCapability event.connId (event :: earlier) = none := by
          rw [lastCapability_cons (by rw [connects]; exact fun _ same => by cases same)]
          exact past.lastCapability_of_not_connected storesToo
            (lawful.once connectedAtMs connects).1
        rw [nothing]
        cases stored : room.deviceCapsByConn.get? event.connId with
        | none => rfl
        | some cap =>
            have announced := whole.declared found stored
            rw [nothing] at announced
            cases announced

end Stored

/-! ### What is broadcast -/

/-- The room that the event found passes the check. -/
def Event.Passes (event : Event) (check : RoomState → CheckOutcome) : Prop :=
  event.op = .read ∧ ∃ room, event.before.room = some room ∧ check room = .passed

/-- What the task has done right before it broadcasts the frame. -/
def Resolved (connId : ConnId) (past : List Event) : KaigiFrame → Prop
  | .mediaProfileNegotiation profile => ∃ look check older asked, past = look :: check :: older ∧
      look.op = .read ∧ check.Passes (mediaProfileCheck · connId asked) ∧
        profile = (look.before.room.map fun room =>
          resolveMediaProfileNegotiation room connId asked).getD asked
  | .recordingNotice notice => ∃ check older, past = check :: older ∧
      check.Passes (recordingNoticeCheck · connId notice)
  | _ => True

def isResolved : KaigiFrame → Bool
  | .mediaProfileNegotiation _ | .recordingNotice _ => true
  | _ => false

/-- Profiles and recording notices are broadcast right after they were checked. -/
def ResolvesFirst (connId : ConnId) (past : List Event) (op : Operation) (_ : HubRoom) : Prop :=
  ∀ frame, op = .fanout frame → Resolved connId past frame

section Handlers

variable {hub : HubState} {connId : ConnId} {world : World}

theorem resolved_of_other {frame : KaigiFrame} {past : List Event}
    (other : isResolved frame = false) : Resolved connId past frame := by
  cases frame with
  | mediaProfileNegotiation | recordingNotice => cases other
  | _ => trivial

theorem resolvesFirst_of_silent {op : Operation} {past : List Event} (state : HubRoom)
    (silent : ∀ frame, op ≠ .fanout frame) : ResolvesFirst connId past op state :=
  fun frame same => absurd same (silent frame)

theorem resolves_parts : AdmitsParts (ResolvesFirst connId) := by
  intro op past state part
  apply resolvesFirst_of_silent state
  rintro frame rfl
  cases part

theorem handlerRules_unresolved (hub : HubState) (connId : ConnId) :
    HandlerRules hub (fun frame => isResolved frame = false)
      fun program => program.Keeps (ownContract hub connId (ResolvesFirst connId))
        fun _ => True := by
  apply handlerRules_of_admits hub
  · intro frame managed
    cases frame <;> first | rfl | cases managed
  · exact resolves_parts
  · exact fun _ _ _ state => resolvesFirst_of_silent state fun _ same => by cases same
  · intro frame past state other sent same
    cases same
    exact resolved_of_other other
  · exact fun _ _ _ state _ => resolvesFirst_of_silent state fun _ same => by cases same

theorem resolves_broadcastFrame {frame : KaigiFrame} (resolved : Resolved connId world.own frame) :
    MeetsOwn hub connId (ResolvesFirst connId) (broadcastFrame hub frame) world := by
  apply resolves_parts.broadcastFrame
  · intro state sent same
    cases same
    exact resolved
  · exact fun _ _ state => resolvesFirst_of_silent state fun _ same => by cases same
  · exact fun _ _ _ state => resolvesFirst_of_silent state fun _ same => by cases same

theorem resolves_handleMediaProfileNegotiation (profile : MediaProfileNegotiationFrame) :
    MeetsOwn hub connId (ResolvesFirst connId)
      (handleMediaProfileNegotiation hub connId profile) world := by
  refine resolves_parts.unlessAnonymous fun _ =>
    resolves_parts.checked fun _ check room found passed =>
      resolves_parts.section rfl fun _ look => resolves_broadcastFrame ?_
  exact ⟨_, _, _, profile, rfl, rfl, ⟨rfl, room, found, passed⟩, rfl⟩

theorem resolves_handleRecordingNotice (notice : RecordingNoticeFrame) :
    MeetsOwn hub connId (ResolvesFirst connId)
      (handleRecordingNotice hub connId notice) world := by
  refine resolves_parts.unlessAnonymous fun _ =>
    resolves_parts.checked fun _ check room found passed => resolves_broadcastFrame ?_
  exact ⟨_, _, rfl, rfl, room, found, passed⟩

theorem isResolved_of_relayed {frame sent : KaigiFrame} (other : isResolved frame = false)
    (relayed : relays frame sent = true) : isResolved sent = false := by
  cases sent with
  | mediaProfileNegotiation | recordingNotice =>
      cases frame <;> first | (cases other; done) | cases relayed
  | _ => rfl

theorem resolves_handleFrame (frame : KaigiFrame) :
    MeetsOwn hub connId (ResolvesFirst connId) (handleFrame hub connId frame) world := by
  cases resolves : isResolved frame with
  | true =>
      cases frame with
      | mediaProfileNegotiation profile => exact resolves_handleMediaProfileNegotiation profile
      | recordingNotice notice => exact resolves_handleRecordingNotice notice
      | _ => cases resolves
  | false =>
      refine (handlerRules_unresolved hub connId).handleFrame frame ?_ world trivial
      intro sent relayed
      exact isResolved_of_relayed resolves relayed

theorem resolves_handleDisconnect :
    MeetsOwn hub connId (ResolvesFirst connId) (handleDisconnect hub connId) world := by
  refine (handlerRules_unresolved hub connId).handleDisconnect (fun _ => rfl) ?_ world trivial
  intro Value deltaAtMs leftAtMs next rest
  exact .atomic (stable_own fun _ => True)
    (fun world _ => resolvesFirst_of_silent world.shared fun _ same => by cases same)
    (fun _ _ => trivial) rest

end Handlers

/-- Every connection task resolves before it broadcasts. -/
def resolveProtocol (hub : HubState) (connId : ConnId) : Protocol hub connId where
  admits := ResolvesFirst connId
  resting _ := True
  connects _ _ := trivial
  pongs _ _ state _ := ⟨resolvesFirst_of_silent state (fun _ same => by cases same), trivial⟩
  serves frame _ _ := resolves_handleFrame frame
  leaves _ _ := resolves_handleDisconnect

section Runs

variable {hub : HubState} {history newer older : List Event} {system : System}

/-- The connection has announced a device capability of which that holds, and none since. -/
def DeclaredLast (connId : ConnId) (history : List Event) (ability : DeviceCapabilityFrame → Bool) :
    Prop :=
  ∃ cap, lastCapability connId history = some cap ∧ ability cap = true

theorem Run.stores (run : Run hub history system) : ∀ event ∈ history, ∀ cap,
    event.op = .deviceCapability cap → event.before.hasJoined event.connId = true :=
  fun _ happened _ => run.stores_joined happened

theorem Run.resolved (run : Run hub history system) {event : Event} {frame : KaigiFrame}
    (split : history = newer ++ event :: older) (fans : event.op = .fanout frame) :
    Resolved event.connId (own event.connId .connection older) frame := by
  obtain ⟨_, _, _, lawful⟩ := run.lawful (show event ∈ history by simp [split])
  rcases ((resolveProtocol hub event.connId).kept run).admitted newer event older split rfl
    (lawful.fanout fans) with ⟨_, connects⟩ | admitted
  · rw [connects] at fans
    cases fans
  · exact admitted frame fans

/-- A profile stays HDR only if the room knows of abilities for it. -/
theorem hdr_of_resolved {room : RoomState} {connId : ConnId}
    {asked : MediaProfileNegotiationFrame}
    (hdr : (resolveMediaProfileNegotiation room connId asked).negotiatedProfile = .hdr) :
    (∃ cap, room.deviceCapsByConn.get? connId = some cap ∧ cap.hdrCapture = true) ∧
      ∃ other, other ≠ connId ∧ room.helloSeen other = true ∧
        ∃ cap, room.deviceCapsByConn.get? other = some cap ∧ cap.hdrRender = true := by
  unfold resolveMediaProfileNegotiation at hdr
  split at hdr
  · next other => exact absurd hdr other
  · dsimp only at hdr
    split at hdr
    · cases hdr
    · next able =>
        simp only [Bool.or_eq_true, Bool.not_eq_true', not_or, Bool.not_eq_false] at able
        obtain ⟨captures, renders⟩ := able
        obtain ⟨⟨other, participant⟩, entry, able⟩ := List.any_eq_true.mp renders
        simp only [Bool.and_eq_true, bne_iff_ne] at able
        obtain ⟨⟨remote, joined⟩, able⟩ := able
        refine ⟨(Option.any_eq_true ..).mp captures, other, remote, ?_,
          (Option.any_eq_true ..).mp able⟩
        simp [RoomState.helloSeen, HashMap.mem_iter.mp entry, joined]

theorem recordingNotice_passed {room : RoomState} {connId : ConnId}
    {notice : RecordingNoticeFrame}
    (passed : recordingNoticeCheck room connId notice = .passed) :
    ∃ sender, room.participants.get? connId = some sender ∧ sender.helloSeen = true ∧
      sender.participantId = notice.participantId ∧ notice.issuedBy = notice.participantId ∧
        (notice.state = .started → room.localRecordingAllowed = true) := by
  have passed := (checkSenderAfter_passed passed).2
  unfold checkSender at passed
  split at passed
  · cases passed
  · next sender found =>
      split at passed
      · cases passed
      · next joined =>
          split at passed
          · cases passed
          · next same =>
              have named : sender.participantId = notice.participantId := not_not.mp same
              simp only [found, Option.any_some, bne_iff_ne] at passed
              split at passed
              · cases passed
              · next unrefused =>
                  split at unrefused
                  · cases unrefused
                  · next issued =>
                      split at unrefused
                      · cases unrefused
                      · next allowed =>
                          refine ⟨sender, found, by simpa using joined, named,
                            (not_not.mp issued).symm.trans named, fun started => ?_⟩
                          by_contra forbidden
                          exact allowed ⟨started, Bool.eq_false_iff.mpr forbidden⟩

/-- Media is negotiated from what was announced: in every run, whatever happens between a check, the
look that resolves a profile and the broadcast, a room stores for everybody in it the device
capability that its connection has announced last; a profile is broadcast as HDR only right after
its task has found, in a room where its connection has joined, that the connection has announced
HDR capture last, and that somebody else who has joined has announced HDR rendering last; and a
recording notice is broadcast only right after its task has found its connection joined under the
name of the notice, and local recording allowed if it starts. -/
theorem media_negotiated (run : Run hub history system) :
    (∀ room connId, system.shared.room = some room → room.participants.get? connId ≠ none →
      room.deviceCapsByConn.get? connId = lastCapability connId history) ∧
    (∀ newer event older profile, history = newer ++ event :: older →
      event.op = .fanout (.mediaProfileNegotiation profile) → profile.negotiatedProfile = .hdr →
        ∃ since look before room, older = since ++ look :: before ∧
          own event.connId .connection since = [] ∧ look.connId = event.connId ∧
          look.before.room = some room ∧ room.helloSeen event.connId = true ∧
          DeclaredLast event.connId before (·.hdrCapture) ∧
          ∃ other, other ≠ event.connId ∧ room.helloSeen other = true ∧
            DeclaredLast other before (·.hdrRender)) ∧
    ∀ newer event older notice, history = newer ++ event :: older →
      event.op = .fanout (.recordingNotice notice) →
        ∃ since check before room sender, older = since ++ check :: before ∧
          own event.connId .connection since = [] ∧ check.connId = event.connId ∧
          check.before.room = some room ∧
          room.participants.get? event.connId = some sender ∧ sender.helloSeen = true ∧
          sender.participantId = notice.participantId ∧ notice.issuedBy = notice.participantId ∧
          (notice.state = .started → room.localRecordingAllowed = true) := by
  obtain ⟨trace, shared⟩ := run.trace
  refine ⟨?_, ?_, ?_⟩
  · intro room connId found present
    exact trace.remembers run.stores (shared ▸ found) present
  · intro newer event older profile split fans hdr
    obtain ⟨look, check, past, asked, latest, looks, ⟨checks, first, was, passed⟩, resolved⟩ :=
      run.resolved split fans
    obtain ⟨since, before, rfl, quiet, owns, same⟩ := own_eq_append
      (show own event.connId .connection older = [] ++ look :: check :: past from latest)
    obtain ⟨between, start, rfl, still, _, _⟩ := own_eq_append
      (show own event.connId .connection before = [] ++ check :: past from owns)
    subst split
    have upTo : Trace hub (between ++ check :: start) := by
      obtain ⟨earlier, _, _⟩ := trace.lawful
      exact earlier.lawful.1
    -- The sender has joined when it was checked, so it has when the profile was resolved.
    have joined : look.before.hasJoined event.connId = true := by
      obtain ⟨later, _, _⟩ := trace.lawful
      obtain ⟨_, found, _⟩ := later.lawful
      obtain ⟨_, checked, _⟩ := upTo.lawful
      have regrouped : between ++ check :: start = (between ++ [check]) ++ start := by simp
      have was : (sharedAfter hub start).hasJoined event.connId = true := by
        rw [← checked]
        exact HubRoom.hasJoined_iff.mpr
          ⟨first, was, (checkSender_passed (checkSenderAfter_passed passed).2).1⟩
      rw [found, regrouped]
      rw [regrouped] at upTo
      refine upTo.joined_until_left was fun other member leaves => ?_
      rcases List.mem_append.mp member with recent | last
      · refine stays_of_own (fun other member tasks => ?_) (by simp [still]) other recent leaves
        obtain ⟨_, _, _, lawful⟩ := run.lawful (show other ∈ _ by simp [member])
        exact lawful.ownTask tasks
      · rw [List.mem_singleton.mp last, checks] at leaves
        cases leaves
    obtain ⟨room, found, joined⟩ := HubRoom.hasJoined_iff.mp joined
    rw [found, Option.map_some, Option.getD_some] at resolved
    rw [resolved] at hdr
    obtain ⟨⟨cap, stored, captures⟩, other, remote, otherJoined, otherCap, otherStored, renders⟩ :=
      hdr_of_resolved hdr
    have stores : ∀ event ∈ between ++ check :: start, ∀ cap, event.op = .deviceCapability cap →
        event.before.hasJoined event.connId = true := by
      intro other member cap op
      exact run.stores other (by simp at member ⊢; tauto) cap op
    have here : (sharedAfter hub (between ++ check :: start)).room = some room := by
      obtain ⟨later, _, _⟩ := trace.lawful
      obtain ⟨_, before, _⟩ := later.lawful
      rw [← before]
      exact found
    refine ⟨since, look, between ++ check :: start, room, rfl, quiet, same, found, joined,
      ⟨cap, ?_, captures⟩, other, remote, otherJoined, otherCap, ?_, renders⟩
    · rw [← upTo.remembers stores here (RoomState.present_of_joined joined)]
      exact stored
    · rw [← upTo.remembers stores here (RoomState.present_of_joined otherJoined)]
      exact otherStored
  · intro newer event older notice split fans
    obtain ⟨check, past, latest, checks, room, found, passed⟩ := run.resolved split fans
    obtain ⟨sender, present, joined, named, issued, allowed⟩ := recordingNotice_passed passed
    obtain ⟨since, before, rfl, quiet, _, same⟩ :=
      own_eq_append (show own event.connId .connection older = [] ++ check :: past from latest)
    exact ⟨since, check, before, room, sender, rfl, quiet, same, found, present, joined, named,
      issued, allowed⟩

end Runs

/-- Alice can capture HDR, and bob can render it. -/
def hdrHub : HubState :=
  scriptedHub [helloAs "alice@sora", helloAs "bob@sora",
    .deviceCapability {
      reportedAtMs := 1
      participantId := "alice@sora"
      codecs := ["av1"]
      hdrCapture := true
      hdrRender := false
      maxVideoStreams := 1 },
    .deviceCapability {
      reportedAtMs := 1
      participantId := "bob@sora"
      codecs := ["av1"]
      hdrCapture := false
      hdrRender := true
      maxVideoStreams := 1 },
    .mediaProfileNegotiation {
      atMs := 1
      participantId := "alice@sora"
      requestedProfile := .hdr
      negotiatedProfile := .hdr
      codec := "av1"
      epoch := 1 }]

def hdrScript : List Move :=
  [.connect 1 0, .connect 2 0] ++ sendsFrame 1 0 1 28 ++ sendsFrame 2 1 1 30 ++
    sendsFrame 1 2 1 9 ++ sendsFrame 2 3 1 9 ++ sendsFrame 1 4 1 9

/-- The operation broadcasts an HDR profile. -/
def Operation.offersHdr : Operation → Bool
  | .fanout (.mediaProfileNegotiation profile) => profile.negotiatedProfile == .hdr
  | _ => false

theorem media_negotiated_script :
    ∃ history system, Run hdrHub history system ∧ ∃ event ∈ history, ∃ profile before other,
      event.op = .fanout (.mediaProfileNegotiation profile) ∧ profile.negotiatedProfile = .hdr ∧
        DeclaredLast event.connId before (·.hdrCapture) ∧
          DeclaredLast other before (·.hdrRender) := by
  obtain ⟨history, system, run, event, happened, offers⟩ := Run.of_played_event hdrHub hdrScript
    Operation.offersHdr (by decide +kernel)
  obtain ⟨newer, older, split⟩ := List.append_of_mem happened
  unfold Operation.offersHdr at offers
  split at offers
  · next profile op =>
      have hdr : profile.negotiatedProfile = .hdr := beq_iff_eq.mp offers
      obtain ⟨_, _, before, _, _, _, _, _, _, captures, other, _, _, renders⟩ :=
        (media_negotiated run).2.1 newer event older profile split op hdr
      exact ⟨history, system, run, event, happened, profile, before, other, op, hdr, captures,
        renders⟩
  · cases offers

end Kaigi.Hub
