import Kaigi.Hub.Admission

/-!
# Billing

Charges accrue per millisecond with a carried remainder. Four critical sections
move the billing cursor of a participant: the periodic check, a payment, a rate
change and the first anonymous hello.
-/

set_option autoImplicit false

namespace Kaigi.Hub

open Collections Wire

def u128Max : Nat := 2 ^ 128 - 1

/-- Integrate per-ms billing with remainder carry. -/
def advanceBilling (state : ParticipantState) (ratePerMinuteNano nowMs : Nat) : ParticipantState :=
  let elapsedMs := nowMs - state.lastBilledAtMs
  let state := { state with lastBilledAtMs := nowMs }
  if elapsedMs = 0 ∨ ratePerMinuteNano = 0 then state
  else
    let numerator :=
      min (min (ratePerMinuteNano * elapsedMs) u128Max + state.billingRemainderMod60k) u128Max
    let deltaNano := min (numerator / 60000) u64Max
    { state with
      billingRemainderMod60k := numerator % 60000
      billedNanoXor := saturatingAdd state.billedNanoXor deltaNano }

def escrowProofStale (lastProofAtMs nowMs maxStaleSecs : Nat) : Bool :=
  nowMs - lastProofAtMs > saturatingMul maxStaleSecs 1000

def anonymousHelloTimedOut (connectedAtMs nowMs maxWaitSecs : Nat) : Bool :=
  escrowProofStale connectedAtMs nowMs maxWaitSecs

/-- Why the periodic check disconnects an anonymous connection, if it does. -/
def escrowDisconnectMessage (billing : BillingConfig) (participant : ParticipantState)
    (nowMs : Nat) : Option String :=
  let maxStaleSecs := billing.anonEscrowProofMaxStaleSecs
  if maxStaleSecs = 0 then none
  else if participant.helloSeen then
    let last := participant.lastEscrowProofAtMs.getD participant.lastBilledAtMs
    if escrowProofStale last nowMs maxStaleSecs then
      some (s!"anonymous escrow proof stale: last_proof_at_ms={last} " ++
        s!"max_stale_secs={maxStaleSecs}")
    else none
  else
    let connectedAt := participant.lastBilledAtMs
    if anonymousHelloTimedOut connectedAt nowMs maxStaleSecs then
      some (s!"anonymous hello timeout: connected_at_ms={connectedAt} " ++
        s!"max_wait_secs={maxStaleSecs}")
    else none

inductive BillingOutcome where
  | ended
  | goOn
  | disconnect (message : String)

/-- The critical section of `enforce_billing`. An anonymous connection that is
to be disconnected falls through to the charging code. -/
def billingSection (hub : HubState) (room : RoomState) (connId : ConnId) (nowMs : Nat) :
    RoomState × BillingOutcome :=
  match room.participants.get? connId with
  | none => (room, .ended)
  | some participant =>
    let anonymous := room.anonymousMode || participant.anonymousMode
    let escrowMessage :=
      if anonymous then escrowDisconnectMessage hub.billing participant nowMs else none
    if anonymous && escrowMessage.isNone then (room, .goOn)
    else
      let rate := room.ratePerMinuteNano
      let charged :=
        if participant.helloSeen then advanceBilling participant rate nowMs
        -- Don't bill before `Hello` is processed, but keep the cursor up to date.
        else { participant with lastBilledAtMs := nowMs }
      let graceNano := hub.billing.graceNano rate
      let message :=
        if charged.helloSeen && rate > 0 &&
            charged.billedNanoXor > saturatingAdd charged.paidNanoXor graceNano then
          some (s!"payment required: billed_nano_xor={charged.billedNanoXor} " ++
            s!"paid_nano_xor={charged.paidNanoXor} grace_nano_xor={graceNano} " ++
            s!"rate_per_minute_nano={rate}")
        else escrowMessage
      (room.updateParticipant connId fun _ => charged,
        match message with
        | some message => .disconnect message
        | none => .goOn)

inductive PaymentOutcome where
  | ignored
  | requireHello
  | invalidPaymentHash
  | accepted (paidNanoXor billedNanoXor : Nat)

/-- The critical section of `Payment`. -/
def paymentSection (hub : HubState) (room : RoomState) (connId : ConnId)
    (payment : PaymentFrame) (nowMs : Nat) : RoomState × PaymentOutcome :=
  match room.participants.get? connId with
  | none => (room, .ignored)
  | some participant =>
    if !participant.helloSeen then
      (room.updateParticipant connId fun participant =>
        { participant with lastBilledAtMs := nowMs }, .requireHello)
    else
      let rate := room.ratePerMinuteNano
      let charged := advanceBilling participant rate nowMs
      if hub.requirePaymentTxHash && rate > 0 && !payment.txHashHex.any isValidTxHashHex then
        (room.updateParticipant connId fun _ => charged, .invalidPaymentHash)
      else
        let paid := { charged with
          paidNanoXor := saturatingAdd charged.paidNanoXor payment.amountNanoXor
          lastPaymentAtMs := some nowMs }
        (room.updateParticipant connId fun _ => paid,
          .accepted paid.paidNanoXor paid.billedNanoXor)

def normalizeRateForPolicy (ratePerMinuteNano : Nat) (allowFreeCalls : Bool) : Nat :=
  if allowFreeCalls then ratePerMinuteNano else max ratePerMinuteNano 1

/-- The rate that the hub starts with. -/
def normalizeInitialRate (ratePerMinuteNano : Nat) (allowFreeCalls : Bool) : Except String Nat :=
  if ratePerMinuteNano = 0 ∧ allowFreeCalls = false then
    .error "--xor-rate-per-minute-nano must be > 0 unless --allow-free-calls is set"
  else .ok (normalizeRateForPolicy ratePerMinuteNano allowFreeCalls)

theorem le_normalizeRateForPolicy (ratePerMinuteNano : Nat) :
    1 ≤ normalizeRateForPolicy ratePerMinuteNano false :=
  Nat.le_max_right ratePerMinuteNano 1

inductive RoomConfigOutcome where
  | ignored
  | refused (message : String)
  | applied (changed rejectedZeroRate : Bool)

/-- The critical section of `RoomConfigUpdate`. Every participant of the room is
charged up to now at the old rate before the rate changes. -/
def roomConfigUpdateSection (hub : HubState) (room : RoomState) (connId : ConnId)
    (update : RoomConfigUpdateFrame) (nowMs : Nat) : RoomState × RoomConfigOutcome :=
  match room.participants.get? connId with
  | none => (room, .ignored)
  | some sender =>
    if !sender.helloSeen then (room, .refused "send Hello first")
    else if room.hostConnId ≠ some connId then (room, .refused "host only")
    else
      let rate := (update.ratePerMinuteNano.map fun rate =>
        normalizeRateForPolicy rate hub.allowFreeCalls).getD room.ratePerMinuteNano
      let shares := (update.maxScreenShares.map fun limit => max limit 1).getD room.maxScreenShares
      let changed := room.ratePerMinuteNano ≠ rate ∨ room.maxScreenShares ≠ shares
      let rejectedZeroRate := update.ratePerMinuteNano = some 0 ∧ hub.allowFreeCalls = false
      ({ room with
          participants := room.participants.mapValues fun _ participant =>
            advanceBilling participant room.ratePerMinuteNano nowMs
          ratePerMinuteNano := rate
          maxScreenShares := shares },
        .applied (decide changed) (decide rejectedZeroRate))

def applyAnonymousZkSurcharge (baseRatePerMinuteNano extraFeePerMinuteNano : Nat) :
    Except String Nat :=
  if extraFeePerMinuteNano = 0 then .ok baseRatePerMinuteNano
  else if baseRatePerMinuteNano + extraFeePerMinuteNano > u64Max then
    .error ("anonymous surcharge overflow: room_rate_per_minute_nano + " ++
      "--anon-zk-extra-fee-per-minute-nano exceeds u64")
  else .ok (baseRatePerMinuteNano + extraFeePerMinuteNano)

end Kaigi.Hub
