import Kaigi.Hub.GroupSteps
import Kaigi.Hub.Scripts
import Kaigi.Session.RuntimeSteps
import Mathlib.Data.List.Induction

/-!
# The acknowledgements of key rotations

The runtime acknowledges the epoch of every key epoch frame that it accepts, whether the
session has got beyond it or not, and dates it with the time of the call. The hub takes
the acknowledgements of a participant only where their epochs and their times grow, from 1
on.
-/

set_option autoImplicit false

namespace Kaigi.Session

structure SentAck where
  ackEpoch : Int
  participantId : String
  sentAtMs : Int

def ProtocolFrame.ack? : ProtocolFrame → Option SentAck
  | .keyRotationAck ackEpoch participantId sentAtMs => some ⟨ackEpoch, participantId, sentAtMs⟩
  | _ => none

/-- The acknowledgements among the answers, in order. -/
def sentAcks (answers : List Answer) : List SentAck :=
  answers.flatMap fun answer => answer.sent.filterMap ProtocolFrame.ack?

/-- The frame that reaches the hub. Its numbers are not negative. -/
def SentAck.frame (ack : SentAck) : Wire.KeyRotationAckFrame where
  receivedAtMs := ack.sentAtMs.toNat
  participantId := ack.participantId
  ackEpoch := ack.ackEpoch.toNat

/-- The name under which the runtime acknowledges. -/
def acknowledger (config : MeetingConfig) : String :=
  (Linux.withBackoff config []).resolvedParticipantId Linux.platform

/-- What a call acknowledges: the epoch of a key epoch frame that the configuration accepts. -/
def acceptedAck? (config : MeetingConfig) (call : RuntimeCall) : Option SentAck :=
  match call.operation with
  | .onFrame (.e2eeKeyEpoch frame) =>
      if !config.requireSignedModeration || frame.signature.any (fun value => !Hub.isBlank value)
      then some ⟨frame.epoch, acknowledger config, call.nowMs⟩
      else none
  | _ => none

def Increasing (numbers : List Int) : Prop :=
  (∀ number ∈ numbers, 1 ≤ number) ∧ numbers.Pairwise (· < ·)

/-- What the hub has stored of the acknowledgements of a connection, and of the clock of
their signer, are some of these. -/
structure Stored (room : Hub.RoomState) (connId : Hub.ConnId) (participantId : String)
    (acks : List SentAck) : Prop where
  epoch : ∀ last ∈ room.keyRotationAckEpochs.get? connId, ∃ ack ∈ acks,
    last = ack.frame.ackEpoch
  clock : ∀ last ∈ room.signedActionClockBySigner.get?
      (Hub.signedActionClockKey "key_rotation_ack" participantId),
    ∃ ack ∈ acks, last = ack.frame.receivedAtMs

/-- Whatever else happens in the room, the hub takes each acknowledgement that does not
exceed the epoch its sender has published. -/
def HubAccepts (acks : List SentAck) : Prop :=
  ∀ earlier ack later, acks = earlier ++ ack :: later →
    ∀ (room : Hub.RoomState) (connId : Hub.ConnId) (sender : Hub.ParticipantState),
      room.participants.get? connId = some sender → sender.helloSeen = true →
      sender.participantId = ack.participantId →
      ack.frame.ackEpoch ≤ Hub.publishedEpoch room connId →
      Stored room connId ack.participantId earlier →
      (Hub.keyRotationAckSection room connId ack.frame).2 = .passed

/-! ## What the hub takes -/

/-- The hub takes a new acknowledgement, of an epoch that its sender has published, whose
time the clock of its sender admits. -/
theorem keyRotationAck_passed_iff {room : Hub.RoomState} {connId : Hub.ConnId}
    {sender : Hub.ParticipantState} {ack : Wire.KeyRotationAckFrame}
    (present : room.participants.get? connId = some sender) (hello : sender.helloSeen = true)
    (named : sender.participantId = ack.participantId)
    (published : ack.ackEpoch ≤ Hub.publishedEpoch room connId) :
    (Hub.keyRotationAckSection room connId ack).2 = .passed ↔
      (1 ≤ ack.ackEpoch ∧ ∀ last ∈ room.keyRotationAckEpochs.get? connId, last < ack.ackEpoch) ∧
        1 ≤ ack.receivedAtMs ∧
        ∀ last ∈ room.signedActionClockBySigner.get?
            (Hub.signedActionClockKey "key_rotation_ack" ack.participantId),
          last < ack.receivedAtMs := by
  have admitted : (∃ clocked, Hub.enforceSignedActionClock room "key_rotation_ack"
      ack.participantId "received_at_ms" ack.receivedAtMs = .ok clocked) ↔ _ :=
    Hub.enforceSignedActionClock_iff
  have newer : (∀ last ∈ room.keyRotationAckEpochs.get? connId, last < ack.ackEpoch) ↔
      ack.ackEpoch = 0 ∧ room.keyRotationAckEpochs.get? connId = none ∨
        (room.keyRotationAckEpochs.get? connId).getD 0 < ack.ackEpoch := by
    cases room.keyRotationAckEpochs.get? connId with
    | none => simp [Nat.eq_zero_or_pos]
    | some last => simp
  rw [← admitted, newer]
  by_cases zero : ack.ackEpoch = 0
  · simp [Hub.keyRotationAckSection, Hub.checkSender, present, hello, named, zero]
  · have known : ¬(Hub.publishedEpoch room connId = 0 ∨
        ack.ackEpoch > Hub.publishedEpoch room connId) := by omega
    by_cases stale : ack.ackEpoch ≤ (room.keyRotationAckEpochs.get? connId).getD 0
    · simp [Hub.keyRotationAckSection, Hub.checkSender, present, hello, named, zero, known, stale]
    · cases clocked : Hub.enforceSignedActionClock room "key_rotation_ack" ack.participantId
          "received_at_ms" ack.receivedAtMs with
      | error message =>
          simp [Hub.keyRotationAckSection, Hub.checkSender, present, hello, named, zero, known,
            stale, clocked]
      | ok after =>
          simp [Hub.keyRotationAckSection, Hub.checkSender, present, hello, named, zero, known,
            stale, clocked, Nat.one_le_iff_ne_zero, Nat.not_le.mp stale]

theorem pairwise_of_earlier {Value : Type} {related : Value → Value → Prop} {values : List Value}
    (ordered : ∀ earlier value later, values = earlier ++ value :: later →
      ∀ before ∈ earlier, related before value) : values.Pairwise related := by
  induction values using List.reverseRecOn with
  | nil => exact .nil
  | append_singleton values last ih =>
      refine List.pairwise_append.mpr ⟨ih ?_, List.pairwise_singleton .., ?_⟩
      · intro earlier value later same
        refine ordered earlier value (later ++ [last]) ?_
        rw [same, List.append_assoc, List.cons_append]
      · intro before member value single
        cases List.mem_singleton.mp single
        exact ordered values last [] rfl before member

theorem Increasing.toNat {earlier later : List Int} {number : Int}
    (increasing : Increasing (earlier ++ number :: later)) :
    1 ≤ number.toNat ∧ ∀ before ∈ earlier, before.toNat < number.toNat := by
  obtain ⟨positive, ordered⟩ := increasing
  have one : 1 ≤ number := positive number (List.mem_append_right _ List.mem_cons_self)
  refine ⟨by omega, ?_⟩
  intro before member
  have less : before < number :=
    (List.pairwise_append.mp ordered).2.2 before member number List.mem_cons_self
  omega

theorem hubAccepts_of_increasing {acks : List SentAck}
    (epochs : Increasing (acks.map SentAck.ackEpoch))
    (times : Increasing (acks.map SentAck.sentAtMs)) : HubAccepts acks := by
  intro earlier ack later split room connId sender present hello named published stored
  rw [split, List.map_append, List.map_cons] at epochs times
  have epoch := epochs.toNat
  have time := times.toNat
  apply (keyRotationAck_passed_iff present hello named published).mpr
  refine ⟨⟨epoch.1, ?_⟩, time.1, ?_⟩
  · intro last kept
    obtain ⟨before, member, same⟩ := stored.epoch last kept
    rw [same]
    exact epoch.2 _ (List.mem_map_of_mem member)
  · intro last kept
    obtain ⟨before, member, same⟩ := stored.clock last kept
    rw [same]
    exact time.2 _ (List.mem_map_of_mem member)

/-- A room in which somebody has published an epoch, and the clocks stand like this. -/
def clockedRoom (participantId : String) (epoch : Nat) (clocks : Collections.HashMap String Nat) :
    Hub.RoomState :=
  { Hub.emptyRoom (Hub.scriptedHub []) with
    participants := (∅ : Collections.HashMap Hub.ConnId Hub.ParticipantState).put 1
      { Hub.freshParticipant 1 0 with participantId, helloSeen := true }
    e2eeEpochs := (∅ : Collections.HashMap Hub.ConnId Nat).put 1 epoch
    signedActionClockBySigner := clocks }

/-- What the hub takes in such a room is admitted by the clock. -/
theorem HubAccepts.admitted {acks earlier later : List SentAck} {ack : SentAck}
    (accepts : HubAccepts acks) (split : acks = earlier ++ ack :: later)
    (clocks : Collections.HashMap String Nat)
    (stored : ∀ last ∈ clocks.get? (Hub.signedActionClockKey "key_rotation_ack"
      ack.participantId), ∃ before ∈ earlier, last = before.frame.receivedAtMs) :
    1 ≤ ack.frame.receivedAtMs ∧
      ∀ last ∈ clocks.get? (Hub.signedActionClockKey "key_rotation_ack" ack.participantId),
        last < ack.frame.receivedAtMs := by
  let room := clockedRoom ack.participantId ack.frame.ackEpoch clocks
  have present : room.participants.get? 1 = some
      { Hub.freshParticipant 1 0 with participantId := ack.participantId, helloSeen := true } := by
    simp [room, clockedRoom]
  have published : ack.frame.ackEpoch ≤ Hub.publishedEpoch room 1 := by
    simp [room, clockedRoom, Hub.publishedEpoch]
  have passed : (Hub.keyRotationAckSection room 1 ack.frame).2 = .passed := by
    refine accepts earlier ack later split room 1 _ present rfl rfl published ⟨?_, stored⟩
    intro last kept
    cases kept
  exact ((keyRotationAck_passed_iff present rfl rfl published).mp passed).2

theorem increasing_of_hubAccepts {acks : List SentAck} (accepts : HubAccepts acks)
    {participantId : String} (named : ∀ ack ∈ acks, ack.participantId = participantId) :
    Increasing (acks.map SentAck.sentAtMs) := by
  constructor
  · intro time member
    obtain ⟨ack, member, same⟩ := List.mem_map.mp member
    obtain ⟨earlier, later, split⟩ := List.append_of_mem member
    have positive : 1 ≤ ack.sentAtMs.toNat := (accepts.admitted split ∅ (by simp)).1
    omega
  · apply List.pairwise_map.mpr
    apply pairwise_of_earlier
    intro earlier ack later split before member
    have sameSigner : before.participantId = ack.participantId := by
      rw [named before (by simp [split, member]), named ack (by simp [split])]
    let key := Hub.signedActionClockKey "key_rotation_ack" ack.participantId
    have later : before.sentAtMs.toNat < ack.sentAtMs.toNat := by
      refine (accepts.admitted split ((∅ : Collections.HashMap String Nat).put key
        before.frame.receivedAtMs) ?_).2 before.frame.receivedAtMs ?_
      · intro last kept
        rw [Collections.HashMap.get?_put, if_pos rfl] at kept
        cases kept
        exact ⟨before, member, rfl⟩
      · rw [Collections.HashMap.get?_put, if_pos rfl]
        rfl
    omega

/-! ## What the runtime acknowledges -/

theorem handshakeFrames_acks {Map : Type → Type} (runtime : SessionRuntime Map)
    (platform : Platform Map) (nowMs : Int) :
    (runtime.handshakeFrames platform nowMs).filterMap ProtocolFrame.ack? = [] := by
  unfold SessionRuntime.handshakeFrames
  rw [List.filterMap_append]
  cases runtime.state.config.requirePaymentSettlement <;> rfl

/-- A session that accepts a key epoch has reached it. -/
theorem raised_epoch {state : SessionView} {frame : E2eeKeyEpochFrame} {nowMs : Int}
    (accepted : signed Linux.rules state frame.signature = true) :
    frame.epoch ≤ (step Linux.rules state (.frameReceived (.e2eeKeyEpoch frame))
      nowMs).e2eeState.currentEpoch := by
  simp only [step, receive, accepted, ↓reduceIte]
  obtain ⟨_, _, _, marked⟩ := checkEpoch_marked Linux.rules (raiseEpoch state frame.epoch) nowMs
  rw [marked]
  exact Int.le_max_right _ _

theorem onFrame_acks (runtime : SessionRuntime Directory) (frame : ProtocolFrame) (nowMs : Int) :
    (Linux.machine.onFrame runtime frame nowMs).1.filterMap ProtocolFrame.ack? =
      (acceptedAck? runtime.state.config ⟨.onFrame frame, nowMs⟩).toList := by
  cases frame with
  | e2eeKeyEpoch frame =>
      let received :=
        runtime.applyEvent Linux.machinePlatform (.frameReceived (.e2eeKeyEpoch frame)) nowMs
      have acknowledged : (Linux.machine.onFrame runtime (.e2eeKeyEpoch frame) nowMs).1 =
          (received.acknowledge Linux.machinePlatform frame (acknowledger runtime.state.config)
            (signed Linux.rules received.state frame.signature) nowMs).1 := rfl
      have config : received.state.config = runtime.state.config := step_config rfl
      have same : signed Linux.rules received.state frame.signature =
          signed Linux.rules runtime.state frame.signature := by
        unfold signed
        rw [config]
      have accepts : acceptedAck? runtime.state.config ⟨.onFrame (.e2eeKeyEpoch frame), nowMs⟩ =
          if signed Linux.rules runtime.state frame.signature then
            some ⟨frame.epoch, acknowledger runtime.state.config, nowMs⟩
          else none := rfl
      rw [acknowledged, same, accepts]
      cases accepted : signed Linux.rules runtime.state frame.signature with
      | false => rfl
      | true =>
          have reached : frame.epoch ≤ received.state.e2eeState.currentEpoch :=
            raised_epoch accepted
          simp [SessionRuntime.acknowledge, reached, ProtocolFrame.ack?]
  | _ => rfl

theorem perform_acks (runtime : SessionRuntime Directory) (call : RuntimeCall) :
    (Linux.machine.perform runtime call).1.sent.filterMap ProtocolFrame.ack? =
      (acceptedAck? runtime.state.config call).toList := by
  obtain ⟨operation, nowMs⟩ := call
  cases operation with
  | onFrame frame => exact onFrame_acks runtime frame nowMs
  | onTransportConnected =>
      simp only [RuntimeClient.perform, SessionRuntime.onTransportConnected]
      split
      · rfl
      · exact handshakeFrames_acks _ _ nowMs
  | _ => rfl

theorem answers_acks {runtime : SessionRuntime Table} (calls : List RuntimeCall) :
    sentAcks (Linux.client.answers runtime calls) =
      calls.filterMap (acceptedAck? runtime.state.config) := by
  induction calls generalizing runtime with
  | nil => rfl
  | cons call calls ih =>
      have view := RuntimeClient.perform_view Linux.client_views runtime call
      have answer : (Linux.client.perform runtime call).1 =
          (Linux.machine.perform runtime.view call).1 := congrArg Prod.fst view
      have config : (Linux.client.perform runtime call).2.state.config = runtime.state.config :=
        (congrArg (fun result => result.2.state.config) view).trans
          (Linux.perform_config runtime.view call)
      have acks : (Linux.client.perform runtime call).1.sent.filterMap ProtocolFrame.ack? =
          (acceptedAck? runtime.state.config call).toList := by
        rw [answer]
        exact perform_acks runtime.view call
      have rest : sentAcks (Linux.client.answers (Linux.client.perform runtime call).2 calls) =
          calls.filterMap (acceptedAck? runtime.state.config) := by
        rw [← config]
        exact ih
      rw [RuntimeClient.answers, sentAcks, List.flatMap_cons, ← sentAcks, rest, acks,
        List.filterMap_cons]
      cases acceptedAck? runtime.state.config call <;> rfl

/-- Every acknowledgement is under one name. -/
theorem acceptedAck_named {config : MeetingConfig} {calls : List RuntimeCall} {ack : SentAck}
    (member : ack ∈ calls.filterMap (acceptedAck? config)) :
    ack.participantId = acknowledger config := by
  obtain ⟨call, _, accepted⟩ := List.mem_filterMap.mp member
  unfold acceptedAck? at accepted
  split at accepted
  · split at accepted
    · cases accepted
      rfl
    · cases accepted
  · cases accepted

/-- The acknowledgements are in order, and taken by the hub, just where the accepted key
epochs come in order, each in a millisecond after those before. -/
theorem rotation_acks_iff (config : MeetingConfig) (reconnectBackoffMs : List Int)
    (calls : List RuntimeCall) :
    let acks := sentAcks (Linux.client.answers (Linux.withBackoff config reconnectBackoffMs) calls)
    let accepted := calls.filterMap (acceptedAck? config)
    (Increasing (acks.map SentAck.ackEpoch) ∧ HubAccepts acks) ↔
      Increasing (accepted.map SentAck.ackEpoch) ∧
        Increasing (accepted.map SentAck.sentAtMs) := by
  intro acks accepted
  have same : acks = accepted := answers_acks calls
  rw [same]
  constructor
  · intro both
    exact ⟨both.1, increasing_of_hubAccepts both.2 fun _ => acceptedAck_named⟩
  · intro both
    exact ⟨both.1, hubAccepts_of_increasing both.1 both.2⟩

def exampleKeyEpoch (epoch : Int) : ProtocolFrame :=
  .e2eeKeyEpoch { epoch, issuedBy := "alice", signature := some "signed", sentAtMs := 1 }

/-- The second epoch is repeated, and an epoch of 0 follows. -/
def exampleRotations : List RuntimeCall :=
  [⟨.onFrame (exampleKeyEpoch 2), 1⟩, ⟨.onFrame (exampleKeyEpoch 2), 2⟩,
    ⟨.onFrame (exampleKeyEpoch 0), 3⟩]

theorem rotation_acks_repeated :
    let acks := sentAcks (Linux.client.answers (Linux.withBackoff exampleConfig [])
      exampleRotations)
    acks.map SentAck.ackEpoch = [2, 2, 0] ∧ ¬Increasing (acks.map SentAck.ackEpoch) := by
  intro acks
  have epochs : acks.map SentAck.ackEpoch = [2, 2, 0] := by decide
  refine ⟨epochs, ?_⟩
  rw [epochs]
  intro increasing
  exact absurd (increasing.1 0 (by decide)) (by decide)

end Kaigi.Session
