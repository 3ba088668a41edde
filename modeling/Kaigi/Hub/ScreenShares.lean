import Kaigi.Hub.Origins
import Kaigi.Hub.Scripts

/-!
# Screen shares

A participant state looks for a free screen share before it switches one on. A
media track state does not.
-/

set_option autoImplicit false

namespace Kaigi.Hub

open Collections Wire Interleaving Authority

/-- Whoever starts to share its screen by the event finds a free share. -/
def SharesWithinCap (hub : HubState) (event : Event) : Prop :=
  ∀ room after connId old new, event.before.room = some room →
    (event.after hub).room = some after → room.participants.get? connId = some old →
      after.participants.get? connId = some new → old.screenShareEnabled = false →
        new.screenShareEnabled = true →
          activeScreenShares room connId < max room.maxScreenShares 1

/-- The operation switches the share of its connection on although no share is
free. -/
def Operation.overshares (op : Operation) (connId : ConnId) (room : RoomState) : Bool :=
  match op with
  | .mediaTrackState track _ =>
      track.activeVideoTrack == .screenShare && track.screenShareEnabled &&
        (room.participants.get? connId).any (fun sender => sender.helloSeen &&
          sender.participantId == track.participantId && !sender.screenShareEnabled) &&
            decide (max room.maxScreenShares 1 ≤ activeScreenShares room connId)
  | _ => false

/-- A media track state does not change who its sender is. -/
theorem track_sender {room : RoomState} {actor connId : ConnId} {track : MediaTrackStateFrame}
    {atMs : Nat} {old new : ParticipantState}
    (steps : Relation.ReflTransGen (Rewrites room actor (.mediaTrackState track atMs) connId)
      old new) : new.helloSeen = old.helloSeen ∧ new.participantId = old.participantId := by
  induction steps with
  | refl => exact ⟨rfl, rfl⟩
  | tail _ rewrites ih =>
      cases rewrites with
      | track => exact ih

/-- Nobody joins with its screen share on. -/
theorem Lawful.hello_silent {hub : HubState} {earlier : List Event} {event : Event}
    (lawful : Lawful hub earlier event) (frame : HelloFrame) (snapshotAtMs deltaAtMs : Nat)
    (request : event.op = .hello frame snapshotAtMs deltaAtMs) :
    frame.screenShareEnabled = false := by
  rcases lawful.permitted with ⟨_, op⟩ | ⟨role, _, permitted, _⟩ | op | op | ⟨_, _, op⟩
  · rw [request] at op
    cases op
  · rw [request] at permitted
    cases role with
    | serving =>
        simp only [Role.permits, Bool.and_eq_true, Bool.not_eq_true'] at permitted
        exact permitted.2
    | leaving | charging => cases permitted
  all_goals
    rw [request] at op
    cases op

theorem shares_of_rewritten {room : RoomState} {actor connId : ConnId} {op : Operation}
    {old new : ParticipantState}
    (silent : ∀ frame snapshotAtMs deltaAtMs, op = .hello frame snapshotAtMs deltaAtMs →
      frame.screenShareEnabled = false)
    (was : room.participants.get? connId = some old) (notYet : old.screenShareEnabled = false)
    (steps : Relation.ReflTransGen (Rewrites room actor op connId) old new)
    (shares : new.screenShareEnabled = true) :
    activeScreenShares room connId < max room.maxScreenShares 1 ∨
      op.overshares actor room = true := by
  induction steps with
  | refl => rw [notYet] at shares; cases shares
  | @tail middle _ steps rewrites ih =>
      cases rewrites with
      | @hello frame =>
          have on : frame.screenShareEnabled = true := shares
          rw [silent frame _ _ rfl] at on
          cases on
      | rekeyed | escrowed => exact ih shares
      | state _ free => exact (free shares).elim ih .inl
      | track joined own share =>
          obtain ⟨sameHello, sameId⟩ := track_sender steps
          rw [sameHello] at joined
          rw [sameId] at own
          by_cases free : activeScreenShares room actor < max room.maxScreenShares 1
          · exact .inl free
          · have share := Bool.and_eq_true_iff.mp (share.symm.trans shares)
            simp [Operation.overshares, share, was, joined, own, notYet, Nat.le_of_not_lt free]
      | silenced _ _ silences => exact ih (silences shares)
      | admitted => cases shares

/-- Whoever starts to share its screen by an event finds a free share, or does not
look for one. -/
theorem Lawful.shares {hub : HubState} {earlier : List Event} {event : Event} {after : RoomState}
    (lawful : Lawful hub earlier event) (left : (event.after hub).room = some after)
    {connId : ConnId} {old new : ParticipantState}
    (was : (event.before.opened hub).participants.get? connId = some old)
    (notYet : old.screenShareEnabled = false)
    (found : after.participants.get? connId = some new) (shares : new.screenShareEnabled = true) :
    activeScreenShares (event.before.opened hub) connId <
        max (event.before.opened hub).maxScreenShares 1 ∨
      event.op.overshares event.connId (event.before.opened hub) = true := by
  cases Event.origin left found with
  | connects _ _ connected =>
      rw [connected] at shares
      cases shares
  | billed known billed =>
      rw [was] at known
      cases known
      rw [billed, notYet] at shares
      cases shares
  | rewritten known steps =>
      rw [was] at known
      cases known
      exact shares_of_rewritten lawful.hello_silent was notYet steps shares
  | anonHello _ _ known _ accepted =>
      rw [was] at known
      cases known
      unfold applyAnonHelloState at accepted
      dsimp only at accepted
      split at accepted
      · cases accepted
      · cases accepted
        rw [notYet] at shares
        cases shares

/-- A media track state that overshares switches a share on. -/
theorem Operation.overshares_shares (hub : HubState) {op : Operation} {actor : ConnId}
    {room : RoomState} (overshares : op.overshares actor room = true) :
    ∃ track atMs old new, op = .mediaTrackState track atMs ∧
      room.participants.get? actor = some old ∧
        (op.updateRoom hub actor room).participants.get? actor = some new ∧
          old.screenShareEnabled = false ∧ new.screenShareEnabled = true ∧
            max room.maxScreenShares 1 ≤ activeScreenShares room actor := by
  cases op with
  | mediaTrackState track atMs =>
      simp only [Operation.overshares, Bool.and_eq_true, beq_iff_eq, Option.any_eq_true,
        Bool.not_eq_true', decide_eq_true_eq] at overshares
      obtain ⟨⟨⟨selected, enabled⟩, old, found, ⟨joined, own⟩, notYet⟩, full⟩ := overshares
      refine ⟨track, atMs, old, { old with
        micEnabled := track.micEnabled
        videoEnabled := false
        screenShareEnabled := track.screenShareEnabled }, rfl, found, ?_, notYet, enabled, full⟩
      unfold Operation.updateRoom mediaTrackStateSection
      simp [found, joined, own, selected, RoomState.updateParticipant]
  | _ => cases overshares

/-- The steps of a run that start a screen share find a free one, except for exactly
the media track states that overshare. -/
theorem sharesWithinCap_iff {hub : HubState} {history : List Event} {system : System}
    (run : Run hub history system) {event : Event} (happened : event ∈ history) :
    SharesWithinCap hub event ↔ ∀ room, event.before.room = some room →
      event.op.overshares event.connId room = false := by
  obtain ⟨earlier, _, _, lawful⟩ := run.lawful happened
  constructor
  · intro within room found
    by_contra overshares
    obtain ⟨track, atMs, old, new, request, was, present, notYet, shares, full⟩ :=
      Operation.overshares_shares hub (Bool.eq_true_of_not_eq_false overshares)
    have left : (event.after hub).room = some (event.op.updateRoom hub event.connId room) := by
      unfold Event.after
      rw [request]
      simp [Operation.apply, found]
    exact absurd full (Nat.not_le_of_lt
      (within room _ event.connId old new found left was present notYet shares))
  · intro clear room after connId old new found left was present notYet shares
    have shared := lawful.shares left (HubRoom.opened_of_some found ▸ was) notYet present shares
    rw [HubRoom.opened_of_some found] at shared
    exact shared.resolve_right (by simp [clear room found])

/-- The host alice lets everybody speak who has published no key. -/
def openPolicy : KaigiFrame :=
  .sessionPolicy {
    updatedAtMs := 1
    roomLock := false
    waitingRoomEnabled := false
    guestJoinAllowed := true
    localRecordingAllowed := true
    e2eeRequired := false
    maxParticipants := 500
    policyEpoch := 1
    updatedBy := "alice@sora"
    signatureHex := "25e1ed7801749631b3df3db8b721a068c7f103d14b7f15afb051e557e36e9565" }

def shareOf (participantId : String) : KaigiFrame :=
  .mediaTrackState {
    updatedAtMs := 1
    participantId := participantId
    micEnabled := false
    cameraEnabled := false
    screenShareEnabled := true
    activeVideoTrack := .screenShare }

def shareHub : HubState where
  __ := scriptedHub [helloAs "alice@sora", helloAs "bob@sora", openPolicy, shareOf "alice@sora",
    shareOf "bob@sora"]
  blake3 := fun input =>
    if input = "session_policyalice@sora|false|false|true|true|false|500|1|1" then
      ⟨#[37, 225, 237, 120, 1, 116, 150, 49, 179, 223, 61, 184, 183, 33, 160, 104,
        199, 241, 3, 209, 75, 127, 21, 175, 176, 81, 229, 87, 227, 110, 149, 101], rfl⟩
    else scriptedDigest input

/-- Alice and bob join, and alice shares her screen. -/
def shareScript : List Move :=
  [.connect 1 0, .connect 2 0] ++ sendsFrame 1 0 1 28 ++ sendsFrame 2 1 2 30 ++
    sendsFrame 1 2 3 15 ++ sendsFrame 1 3 4 13

/-- The connection starts to share its screen by the event. -/
def startsShare (connId : ConnId) (event : Event) : Bool :=
  event.before.room.any fun room => (event.after shareHub).room.any fun after =>
    (room.participants.get? connId).any (!·.screenShareEnabled) &&
      (after.participants.get? connId).any (·.screenShareEnabled)

theorem sharesWithinCap_script :
    ∃ history system event, Run shareHub history system ∧ event ∈ history ∧
      startsShare 1 event = true ∧ SharesWithinCap shareHub event := by
  obtain ⟨history, system, run, checks⟩ := Run.of_played shareHub shareScript
    (fun history _ => history.any fun event => startsShare 1 event &&
      event.before.room.all fun room => !event.op.overshares event.connId room) (by decide +kernel)
  simp only [List.any_eq_true, Bool.and_eq_true, Option.all_eq_true, Bool.not_eq_true'] at checks
  obtain ⟨event, happened, starts, clear⟩ := checks
  exact ⟨history, system, event, run, happened, starts,
    (sharesWithinCap_iff run happened).mpr clear⟩

/-- Bob shares his screen while alice has the only share. -/
theorem sharesWithinCap_fails :
    ¬ ∀ (hub : HubState) (history : List Event) (system : System), Run hub history system →
      ∀ event ∈ history, SharesWithinCap hub event := by
  intro claimed
  obtain ⟨history, system, run, checks⟩ := Run.of_played shareHub
    (shareScript ++ sendsFrame 2 4 5 5)
    (fun history _ => history.any fun event => event.before.room.any fun room =>
      (event.after shareHub).room.any fun after =>
        (room.participants.get? 2).any (!·.screenShareEnabled) &&
          (after.participants.get? 2).any (·.screenShareEnabled) &&
            decide (max room.maxScreenShares 1 ≤ activeScreenShares room 2)) (by decide +kernel)
  simp only [List.any_eq_true, Option.any_eq_true, Bool.and_eq_true, Bool.not_eq_true',
    decide_eq_true_eq] at checks
  obtain ⟨event, happened, room, found, after, left,
    ⟨⟨old, was, notYet⟩, new, present, shares⟩, full⟩ := checks
  have free := claimed shareHub history system run event happened room after 2 old new found left
    was present notYet shares
  exact absurd full (Nat.not_le_of_lt free)

end Kaigi.Hub
