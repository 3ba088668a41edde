import Kaigi.Hub.Trace

/-!
# Scripted runs

Runs for concrete inputs: a codec that decodes a payload to the frame with that
number in a script, and the moves that send a frame, leave, or charge.
-/

set_option autoImplicit false

namespace Kaigi.Hub

open Collections Wire Interleaving

/-- A codec for the frames of a script. A payload is the number of its frame. -/
def scriptedNorito (frames : List KaigiFrame) : Norito where
  toBytes := fun _ => .ok [0]
  decodeFromBytes := fun payload =>
    match payload with
    | [index] => (frames[index.toNat]?).elim (.error "unknown frame") .ok
    | _ => .error "unknown frame"

/-- Send the frame with that number and let its handler run for `steps` steps. -/
def sendsFrame (connId : ConnId) (index : UInt8) (clock steps : Nat) : List Move :=
  .receive connId (.binary [0, 0, 0, 1, index]) :: List.replicate steps (.advance connId clock)

/-- Close the connection, let its writer fail, and let `handle_disconnect` run for `steps`
steps. -/
def closes (connId : ConnId) (clock steps : Nat) : List Move :=
  .receive connId .close :: .writerStopped connId :: .writerEnded connId ::
    List.replicate steps (.advance connId clock)

def helloAs (participantId : String) : KaigiFrame :=
  .hello {
    protocolVersion := protocolVersion
    participantId := participantId
    displayName := none
    micEnabled := false
    videoEnabled := false
    screenShareEnabled := false
    hdrDisplay := false
    hdrCapture := false }

/-- The host alice makes bob a co-host. -/
def bobCoHostGrant : KaigiFrame :=
  .roleGrant {
    issuedAtMs := 1
    targetParticipantId := "bob@sora"
    role := .coHost
    grantedBy := "alice@sora"
    signatureHex := "2ab2dd3252b63515919e5a0db9207b1c7395922325c36bb2ef7bc74e4b708119" }

/-- The host alice turns the waiting room on. -/
def waitingRoomPolicy : KaigiFrame :=
  .sessionPolicy {
    updatedAtMs := 1
    roomLock := false
    waitingRoomEnabled := true
    guestJoinAllowed := true
    localRecordingAllowed := true
    e2eeRequired := true
    maxParticipants := 500
    policyEpoch := 1
    updatedBy := "alice@sora"
    signatureHex := "210ea687e7a4dbe311015b7343de52f9e4a8f0d1beaabdd987cf89b17d5ad934" }

/-- The BLAKE3 digests that the signatures of these frames need. -/
def scriptedDigest (input : String) : Vector UInt8 32 :=
  if input = "role_grantalice@sora|bob@sora|cohost|1" then
    ⟨#[42, 178, 221, 50, 82, 182, 53, 21, 145, 158, 90, 13, 185, 32, 123, 28,
      115, 149, 146, 35, 37, 195, 107, 178, 239, 123, 199, 78, 75, 112, 129, 25], rfl⟩
  else if input = "session_policyalice@sora|false|true|true|true|true|500|1|1" then
    ⟨#[33, 14, 166, 135, 231, 164, 219, 227, 17, 1, 91, 115, 67, 222, 82, 249,
      228, 168, 240, 209, 190, 170, 189, 217, 135, 207, 137, 177, 125, 90, 217, 52], rfl⟩
  else Vector.replicate 32 0

/-- A hub for the frames of a script that charges one nano for a millisecond. -/
def scriptedHub (frames : List KaigiFrame) : HubState where
  billing := {
    defaultRatePerMinuteNano := 60000
    anonZkExtraFeePerMinuteNano := 0
    graceSecs := 0
    checkIntervalSecs := 5
    anonEscrowProofMaxStaleSecs := 0 }
  anonMaxParticipants := 32
  allowFreeCalls := true
  requirePaymentTxHash := false
  norito := scriptedNorito frames
  blake3 := scriptedDigest

def played (hub : HubState) (moves : List Move) : Option (List Event × System) :=
  (hubMachine hub).execute moves [] System.initial

/-- A script that plays to its end is a run. -/
theorem Run.of_played (hub : HubState) (moves : List Move) (check : List Event → System → Bool)
    (plays : (played hub moves).any (fun result => check result.1 result.2) = true) :
    ∃ history system, Run hub history system ∧ check history system = true := by
  cases executed : played hub moves with
  | none =>
      rw [executed] at plays
      cases plays
  | some result =>
      rw [executed] at plays
      exact ⟨result.1, result.2, Machine.Run.execute .initial executed, plays⟩

/-- The same for a script that leaves a room behind. -/
theorem Run.of_played_room (hub : HubState) (moves : List Move)
    (check : List Event → RoomState → Bool)
    (plays : (played hub moves).any (fun result => result.2.shared.room.any (check result.1)) =
      true) :
    ∃ history system room, Run hub history system ∧ system.shared.room = some room ∧
      check history room = true := by
  obtain ⟨history, system, run, checks⟩ := Run.of_played hub moves (fun history system =>
    system.shared.room.any (check history)) plays
  cases found : system.shared.room with
  | none => simp [found] at checks
  | some room => exact ⟨history, system, room, run, found, by simpa [found] using checks⟩

/-- The same for a script in which some operation passes the check. -/
theorem Run.of_played_event (hub : HubState) (moves : List Move) (check : Operation → Bool)
    (plays : (played hub moves).any (fun result => result.1.any fun event => check event.op) =
      true) :
    ∃ history system, Run hub history system ∧ ∃ event ∈ history, check event.op = true := by
  obtain ⟨history, system, run, passes⟩ := Run.of_played hub moves
    (fun history _ => history.any fun event => check event.op) plays
  exact ⟨history, system, run, List.any_eq_true.mp passes⟩

/-- Every event passes the check against the events before it. -/
def everyEvent (check : List Event → Event → Bool) : List Event → Bool
  | [] => true
  | event :: earlier => check earlier event && everyEvent check earlier

theorem everyEvent_iff {check : List Event → Event → Bool} {history : List Event} :
    everyEvent check history = true ↔
      ∀ newer event earlier, history = newer ++ event :: earlier → check earlier event = true := by
  induction history with
  | nil => simp [everyEvent]
  | cons event past ih =>
      rw [everyEvent, Bool.and_eq_true, ih]
      constructor
      · rintro ⟨now, before⟩ newer current earlier split
        cases newer with
        | nil =>
            obtain ⟨rfl, rfl⟩ := List.cons.inj split
            exact now
        | cons head rest => exact before rest current earlier (List.cons.inj split).2
      · exact fun every => ⟨every [] event past rfl, fun newer current earlier split =>
          every (event :: newer) current earlier (by rw [split]; rfl)⟩

end Kaigi.Hub
