import Kaigi.Client.JoinLink

/-!
# Policy commands

`room_chat` keeps a copy of the session policy. A policy command edits one field of the
copy and sends all of it; the reader replaces the copy by every policy that arrives.
-/

set_option autoImplicit false

namespace Kaigi.Client

open Wire Hub

def defaultPolicyMaxParticipants : Nat := 500

structure LocalSessionPolicyState where
  roomLock : Bool := false
  waitingRoomEnabled : Bool := false
  guestJoinAllowed : Bool := true
  localRecordingAllowed : Bool := true
  e2eeRequired : Bool := true
  maxParticipants : Nat := defaultPolicyMaxParticipants
  policyEpoch : Nat := 0

inductive PolicyCommand where
  | lock (enabled : Bool)
  | waiting (enabled : Bool)
  | guests (enabled : Bool)
  | recordLocal (enabled : Bool)
  | e2eeRequired (enabled : Bool)
  | maxParticipants (maxParticipants : Nat)

/-! ### Reading a command -/

def parseOnOff : String → Except String Bool
  | "on" | "true" | "1" => .ok true
  | "off" | "false" | "0" => .ok false
  | _ => .error "expected on|off"

def parseMaxParticipants (value : String) : Except String Nat :=
  match parseUnsigned UInt32.size value with
  | none => .error "expected /maxparticipants <u32>"
  | some maxParticipants =>
      if maxParticipants = 0 then .error "expected /maxparticipants >= 1" else .ok maxParticipants

def policyCommands : List (String × (String → Except String PolicyCommand)) :=
  [("/lock ", fun value => (parseOnOff value).map .lock),
    ("/waiting ", fun value => (parseOnOff value).map .waiting),
    ("/guests ", fun value => (parseOnOff value).map .guests),
    ("/recordlocal ", fun value => (parseOnOff value).map .recordLocal),
    ("/e2eerequired ", fun value => (parseOnOff value).map .e2eeRequired),
    ("/maxparticipants ", fun value => (parseMaxParticipants value).map .maxParticipants)]

/-- What follows the name of the command, trimmed. -/
def commandValue (name input : String) : Option String :=
  if name.toList.isPrefixOf input.toList then
    some (String.ofList (trim (String.ofList (input.toList.drop name.toList.length))))
  else none

/-- Lines that are no policy command are read by the other branches of the loop. An error
ends `room_chat`. -/
def readPolicyCommand (input : String) : Option (Except String PolicyCommand) :=
  policyCommands.findSome? fun command => (commandValue command.1 input).map command.2

/-! ### The local copy -/

def LocalSessionPolicyState.edit (state : LocalSessionPolicyState) :
    PolicyCommand → LocalSessionPolicyState
  | .lock enabled => { state with roomLock := enabled }
  | .waiting enabled => { state with waitingRoomEnabled := enabled }
  | .guests enabled => { state with guestJoinAllowed := enabled }
  | .recordLocal enabled => { state with localRecordingAllowed := enabled }
  | .e2eeRequired enabled => { state with e2eeRequired := enabled }
  | .maxParticipants maxParticipants => { state with maxParticipants := maxParticipants }

/-- The copy after a command: edited, with the next epoch, before the hub has answered. -/
def LocalSessionPolicyState.command (state : LocalSessionPolicyState) (command : PolicyCommand) :
    LocalSessionPolicyState :=
  { state.edit command with policyEpoch := Hub.saturatingAdd state.policyEpoch 1 }

def sessionPolicySignatureHex (hub : HubState) (updatedBy : String)
    (state : LocalSessionPolicyState) (updatedAtMs : Nat) : String :=
  Hub.deterministicSignatureHex hub "session_policy"
    (updatedBy ++ "|" ++ toString state.roomLock ++ "|" ++ toString state.waitingRoomEnabled ++
      "|" ++ toString state.guestJoinAllowed ++ "|" ++ toString state.localRecordingAllowed ++
      "|" ++ toString state.e2eeRequired ++ "|" ++ toString state.maxParticipants ++ "|" ++
      toString state.policyEpoch ++ "|" ++ toString updatedAtMs)

/-- The frame with the whole copy. -/
def policyUpdate (hub : HubState) (participantId : String) (state : LocalSessionPolicyState)
    (atMs : Nat) : SessionPolicyFrame where
  updatedAtMs := atMs
  roomLock := state.roomLock
  waitingRoomEnabled := state.waitingRoomEnabled
  guestJoinAllowed := state.guestJoinAllowed
  localRecordingAllowed := state.localRecordingAllowed
  e2eeRequired := state.e2eeRequired
  maxParticipants := state.maxParticipants
  policyEpoch := state.policyEpoch
  updatedBy := participantId
  signatureHex := sessionPolicySignatureHex hub participantId state atMs

/-- The reader takes over any policy, whatever its epoch. -/
def readSessionPolicy (policy : SessionPolicyFrame) : LocalSessionPolicyState where
  roomLock := policy.roomLock
  waitingRoomEnabled := policy.waitingRoomEnabled
  guestJoinAllowed := policy.guestJoinAllowed
  localRecordingAllowed := policy.localRecordingAllowed
  e2eeRequired := policy.e2eeRequired
  maxParticipants := policy.maxParticipants
  policyEpoch := policy.policyEpoch

/-! ### Fields -/

inductive PolicyField where
  | roomLock
  | waitingRoomEnabled
  | guestJoinAllowed
  | localRecordingAllowed
  | e2eeRequired
  | maxParticipants
deriving DecidableEq

def PolicyField.value (field : PolicyField) (policy : LocalSessionPolicyState) : Bool ⊕ Nat :=
  match field with
  | .roomLock => .inl policy.roomLock
  | .waitingRoomEnabled => .inl policy.waitingRoomEnabled
  | .guestJoinAllowed => .inl policy.guestJoinAllowed
  | .localRecordingAllowed => .inl policy.localRecordingAllowed
  | .e2eeRequired => .inl policy.e2eeRequired
  | .maxParticipants => .inr policy.maxParticipants

/-- The field of a policy as it is sent. -/
def PolicyField.of (field : PolicyField) (policy : SessionPolicyFrame) : Bool ⊕ Nat :=
  field.value (readSessionPolicy policy)

def PolicyCommand.field : PolicyCommand → PolicyField
  | .lock _ => .roomLock
  | .waiting _ => .waitingRoomEnabled
  | .guests _ => .guestJoinAllowed
  | .recordLocal _ => .localRecordingAllowed
  | .e2eeRequired _ => .e2eeRequired
  | .maxParticipants _ => .maxParticipants

/-- A command changes no field but the one that it names. -/
theorem value_command {command : PolicyCommand} {field : PolicyField}
    (other : command.field ≠ field) (state : LocalSessionPolicyState) :
    field.value (state.command command) = field.value state := by
  cases command <;> cases field <;> first | rfl | exact absurd rfl other

/-- The hub is sent the copy as it is. -/
@[simp] theorem readSessionPolicy_policyUpdate (hub : HubState) (participantId : String)
    (state : LocalSessionPolicyState) (atMs : Nat) :
    readSessionPolicy (policyUpdate hub participantId state atMs) = state := rfl

example : (readPolicyCommand "/lock on").isSome = true := by decide +kernel

end Kaigi.Client
