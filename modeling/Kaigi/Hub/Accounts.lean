import Kaigi.Hub.Edits
import Kaigi.Hub.Trace

/-!
# Accounts of a room

A joined participant of a transparent room accrues the rate of the room. Every
critical section keeps the accounts balanced, except where it charges for time in
which a participant had not joined.
-/

set_option autoImplicit false

namespace Kaigi.Hub

open Collections Wire Authority Metering

/-- What a connection owes for every sixty thousandth of a millisecond. -/
def RoomState.accrual (room : RoomState) (connId : ConnId) : Nat :=
  if !room.anonymousMode && room.helloSeen connId then room.ratePerMinuteNano else 0

/-- From its billing cursor on the connection would be charged something. -/
def RoomState.owes (room : RoomState) (connId : ConnId) (nowMs : Nat) : Bool :=
  (room.participants.get? connId).any fun participant =>
    decide (0 < room.ratePerMinuteNano * (nowMs - participant.lastBilledAtMs))

/-- The operation charges for time in which a participant had not joined, or lets
it join with a billing cursor that lies in such time. -/
def Operation.chargesUnjoined (hub : HubState) (op : Operation) (connId : ConnId)
    (room : RoomState) : Bool :=
  match op with
  | .hello frame _ deltaAtMs =>
      !room.helloSeen connId && helloAdmits room connId frame.participantId &&
        room.owes connId deltaAtMs
  | .moderation frame _ admitAtMs =>
      frame.action == .admitFromWaiting && room.helloSeen connId && canModerateConn room connId &&
        (validateModerationSenderClock room connId frame).isOk &&
          match moderationTargets room connId frame with
          | .ok targets => targets.any fun target =>
              !room.helloSeen target &&
                (room.participants.get? target).any (·.waitingRoomPending) &&
                room.owes target admitAtMs
          | .error _ => false
  | .roomConfigUpdate _ nowMs =>
      room.helloSeen connId && room.hostConnId == some connId &&
        room.participants.keys.any fun other => !room.helloSeen other && room.owes other nowMs
  | .billing nowMs =>
      room.anonymousMode && room.helloSeen connId &&
        (room.participants.get? connId).any (fun participant =>
          (escrowDisconnectMessage hub.billing participant nowMs).isSome) &&
          room.owes connId nowMs
  | _ => false

section Accrual

variable {room after : RoomState} {connId : ConnId} {participant : ParticipantState} {nowMs : Nat}

theorem owes_eq_false (found : room.participants.get? connId = some participant)
    (paid : room.owes connId nowMs = false) :
    room.ratePerMinuteNano * (nowMs - participant.lastBilledAtMs) = 0 := by
  unfold RoomState.owes at paid
  rw [found, Option.any_some, decide_eq_false_iff_not] at paid
  exact Nat.eq_zero_of_not_pos paid

theorem accrual_of_joined (transparent : room.anonymousMode = false)
    (joined : room.helloSeen connId = true) : room.accrual connId = room.ratePerMinuteNano := by
  unfold RoomState.accrual
  simp [transparent, joined]

theorem accrual_of_anonymous (anonymous : room.anonymousMode = true) :
    room.accrual connId = 0 := by
  unfold RoomState.accrual
  simp [anonymous]

theorem accrual_congr (same : groupOf after = groupOf room)
    (rate : after.ratePerMinuteNano = room.ratePerMinuteNano) :
    after.accrual connId = room.accrual connId := by
  have mode : after.anonymousMode = room.anonymousMode := congrArg Group.anonymous same
  have joined : after.helloSeen connId = room.helloSeen connId := by
    rw [Bool.eq_iff_iff, ← joined_groupOf, ← joined_groupOf, same]
  unfold RoomState.accrual
  rw [mode, joined, rate]

theorem helloSeen_of_some (found : room.participants.get? connId = some participant) :
    room.helloSeen connId = participant.helloSeen := by
  simp [RoomState.helloSeen, found]

end Accrual

/-! ### Charging -/

@[simp] theorem billingAccount_advanceBilling_cursor (participant : ParticipantState)
    (rate nowMs : Nat) :
    (billingAccount (advanceBilling participant rate nowMs)).cursor = nowMs := by
  unfold advanceBilling
  dsimp only
  split <;> rfl

/-- Saturation charges less, never more. -/
theorem billingAccount_advanceBilling_charged (participant : ParticipantState)
    (rate nowMs : Nat) :
    (billingAccount (advanceBilling participant rate nowMs)).charged ≤
      (billingAccount participant).due rate nowMs := by
  unfold advanceBilling
  dsimp only
  split
  · exact Nat.le_add_right _ _
  · simp only [billingAccount, Account.due]
    generalize numerator : min (min (rate * (nowMs - participant.lastBilledAtMs)) u128Max +
      participant.billingRemainderMod60k) u128Max = amount
    have bounded : amount ≤ rate * (nowMs - participant.lastBilledAtMs) +
        participant.billingRemainderMod60k := by
      rw [← numerator]
      exact (min_le_left _ _).trans (Nat.add_le_add_right (min_le_left _ _) _)
    have billed : saturatingAdd participant.billedNanoXor (min (amount / 60000) u64Max) ≤
        participant.billedNanoXor + amount / 60000 :=
      (min_le_left _ _).trans (Nat.add_le_add_left (min_le_left _ _) _)
    have parts := Nat.div_add_mod amount 60000
    omega

/-- Below saturation exactly what is due is charged. -/
theorem billingAccount_advanceBilling_exact (participant : ParticipantState) (rate nowMs : Nat)
    (unsaturated : (billingAccount participant).due rate nowMs < 60000 * (u64Max + 1)) :
    (billingAccount (advanceBilling participant rate nowMs)).charged =
      (billingAccount participant).due rate nowMs := by
  unfold advanceBilling
  dsimp only
  split
  · next nothing =>
      rcases nothing with same | free
      · simp [billingAccount, Account.due, same]
      · simp [billingAccount, Account.due, free]
  · simp only [billingAccount, Account.due] at unsaturated ⊢
    generalize rate * (nowMs - participant.lastBilledAtMs) = accrued at unsaturated ⊢
    have numerator : min (min accrued u128Max + participant.billingRemainderMod60k) u128Max =
        accrued + participant.billingRemainderMod60k := by
      unfold u128Max
      unfold u64Max at unsaturated
      omega
    rw [numerator]
    have billed : saturatingAdd participant.billedNanoXor
        (min ((accrued + participant.billingRemainderMod60k) / 60000) u64Max) =
        participant.billedNanoXor + (accrued + participant.billingRemainderMod60k) / 60000 := by
      unfold saturatingAdd
      omega
    rw [billed]
    omega

/-- Charging balances the account if nothing is charged for time in which nothing
accrued. -/
theorem balanced_advanceBilling {participant : ParticipantState} {rate accrual next nowMs : Nat}
    (accrued : accrual = rate ∨ rate * (nowMs - participant.lastBilledAtMs) = 0) :
    Balanced accrual next nowMs (billingAccount participant)
      (billingAccount (advanceBilling participant rate nowMs)) := by
  refine .settled (billingAccount_advanceBilling_cursor _ _ _)
    ((billingAccount_advanceBilling_charged _ _ _).trans (Nat.add_le_add_left ?_ _))
  rcases accrued with rfl | nothing
  · exact Nat.le_refl _
  · exact (le_of_eq nothing).trans (Nat.zero_le _)

/-- What a section may do to the account of a participant: leave it alone, move
the cursor of somebody who has not joined, or charge, if it `may`. -/
inductive Charge (rate nowMs : Nat) (may : Prop) (old new : ParticipantState) : Prop where
  | kept : billOf new = billOf old → Charge rate nowMs may old new
  | skipped : old.helloSeen = false →
      billOf new = { billOf old with lastBilledAtMs := nowMs } → Charge rate nowMs may old new
  | charged : may → billOf new = billOf (advanceBilling old rate nowMs) →
      Charge rate nowMs may old new

/-- Only what concerns charges and payments has changed. -/
def OnlyBilled (old new : ParticipantState) : Prop :=
  new = { old with
    lastBilledAtMs := new.lastBilledAtMs
    billedNanoXor := new.billedNanoXor
    billingRemainderMod60k := new.billingRemainderMod60k
    paidNanoXor := new.paidNanoXor
    lastPaymentAtMs := new.lastPaymentAtMs }

theorem onlyBilled_advanceBilling (participant : ParticipantState) (rate nowMs : Nat) :
    OnlyBilled participant (advanceBilling participant rate nowMs) := by
  unfold advanceBilling
  dsimp only
  split <;> rfl

/-- A section that keeps the rate, with the participants that it `may` charge. -/
structure Charges (room after : RoomState) (nowMs : Nat) (may : ConnId → ParticipantState → Prop) :
    Prop where
  rate : after.ratePerMinuteNano = room.ratePerMinuteNano
  charge : ∀ connId new, after.participants.get? connId = some new →
    ∃ old, room.participants.get? connId = some old ∧ OnlyBilled old new ∧
      Charge room.ratePerMinuteNano nowMs (may connId old) old new

theorem Charges.refl (room : RoomState) (nowMs : Nat) (may : ConnId → ParticipantState → Prop) :
    Charges room room nowMs may :=
  ⟨rfl, fun _ new found => ⟨new, found, rfl, .kept rfl⟩⟩

theorem Charges.update {room : RoomState} {connId : ConnId} {nowMs : Nat}
    {may : ConnId → ParticipantState → Prop} {participant : ParticipantState}
    {update : ParticipantState → ParticipantState}
    (found : room.participants.get? connId = some participant)
    (billed : OnlyBilled participant (update participant))
    (charge : Charge room.ratePerMinuteNano nowMs (may connId participant) participant
      (update participant)) :
    Charges room (room.updateParticipant connId update) nowMs may := by
  refine ⟨rfl, fun other new present => ?_⟩
  simp only [RoomState.updateParticipant, HashMap.get?_modify] at present
  split at present
  · next same =>
      subst same
      rw [found] at present
      cases present
      exact ⟨participant, found, billed, charge⟩
  · exact ⟨new, present, rfl, .kept rfl⟩

/-- The periodic check charges its own connection once it has joined, and an
anonymous one only when its escrow proof is stale. -/
theorem billingSection_charges (hub : HubState) (room : RoomState) (connId : ConnId)
    (nowMs : Nat) :
    Charges room (billingSection hub room connId nowMs).1 nowMs fun other old =>
      other = connId ∧ old.helloSeen = true ∧ (room.anonymousMode = true →
        (escrowDisconnectMessage hub.billing old nowMs).isSome = true) := by
  unfold billingSection
  split
  · exact .refl _ _ _
  · next participant found =>
      dsimp only
      by_cases skipped : ((room.anonymousMode || participant.anonymousMode) &&
          (if room.anonymousMode || participant.anonymousMode then
            escrowDisconnectMessage hub.billing participant nowMs else none).isNone) = true
      · rw [if_pos skipped]
        exact .refl _ _ _
      · rw [if_neg skipped]
        split
        · next joined =>
            refine .update found (onlyBilled_advanceBilling _ _ _) ?_
            refine .charged ⟨rfl, joined, fun anonymous => ?_⟩ rfl
            simpa [anonymous, Option.isSome_iff_ne_none] using skipped
        · next notJoined => exact .update found rfl (.skipped (by simpa using notJoined) rfl)

theorem paymentSection_charges (hub : HubState) (room : RoomState) (connId : ConnId)
    (payment : PaymentFrame) (nowMs : Nat) :
    Charges room (paymentSection hub room connId payment nowMs).1 nowMs fun other old =>
      other = connId ∧ old.helloSeen = true := by
  unfold paymentSection
  split
  · exact .refl _ _ _
  · next participant found =>
      split
      · next notJoined => exact .update found rfl (.skipped (by simpa using notJoined) rfl)
      · next joined =>
          have may : connId = connId ∧ participant.helloSeen = true := ⟨rfl, by simpa using joined⟩
          have billed := onlyBilled_advanceBilling participant room.ratePerMinuteNano nowMs
          dsimp only
          split
          · exact .update found billed (.charged may rfl)
          · refine .update found ?_ (.charged may rfl)
            unfold OnlyBilled at billed ⊢
            rw [billed]

/-- An accepted rate change charges everybody up to now. -/
theorem roomConfigUpdateSection_charges (hub : HubState) (room : RoomState) (connId : ConnId)
    (update : RoomConfigUpdateFrame) (nowMs : Nat) :
    (roomConfigUpdateSection hub room connId update nowMs).1 = room ∨
      (∃ sender, room.participants.get? connId = some sender ∧ sender.helloSeen = true) ∧
        room.hostConnId = some connId ∧
          ∀ other new, (roomConfigUpdateSection hub room connId update
              nowMs).1.participants.get? other = some new →
            ∃ old, room.participants.get? other = some old ∧
              new = advanceBilling old room.ratePerMinuteNano nowMs := by
  unfold roomConfigUpdateSection
  split
  · exact .inl rfl
  · next sender found =>
      split
      · exact .inl rfl
      · next joined =>
          split
          · exact .inl rfl
          · next hosts =>
              refine .inr ⟨⟨sender, found, by simpa using joined⟩, Decidable.not_not.mp hosts, ?_⟩
              intro other new present
              simp only [HashMap.get?_mapValues] at present
              obtain ⟨old, was, rfl⟩ := Option.map_eq_some_iff.mp present
              exact ⟨old, was, rfl⟩

/-- An anonymous hello is refused, or turns the room anonymous. -/
inductive AnonHellos (hub : HubState) (room : RoomState) (connId : ConnId) (hello : AnonHelloFrame)
    (nowMs : Nat) (after : RoomState) : Prop where
  | refused : after.participants = room.participants →
      after.ratePerMinuteNano = room.ratePerMinuteNano → groupOf after = groupOf room →
      AnonHellos hub room connId hello nowMs after
  | accepted {participant joined : ParticipantState} : after.anonymousMode = true →
      anonHelloAdmits hub room connId hello = true →
      room.participants.get? connId = some participant →
      applyAnonHelloState participant hello nowMs = .ok joined →
      after.participants = room.participants.modify connId (fun _ => joined) →
      AnonHellos hub room connId hello nowMs after

theorem announceAnonHello_hellos {hub : HubState} {room : RoomState} {connId : ConnId}
    {hello : AnonHelloFrame} {nowMs rosterAtMs : Nat} {enter : RoomState → RoomState}
    (entered : ∀ room', (enter room').participants = room'.participants)
    (anonymous : ∀ room', room'.anonymousMode = room.anonymousMode →
      (enter room').anonymousMode = true)
    (admits : anonHelloAdmits hub room connId hello = true) :
    AnonHellos hub room connId hello nowMs
      (announceAnonHello hub room connId hello nowMs rosterAtMs enter).1 := by
  unfold announceAnonHello
  split
  · exact .refused rfl rfl rfl
  · next participant found =>
      split
      · exact .refused rfl rfl rfl
      · next joined accepted => exact .accepted (anonymous _ rfl) admits found accepted (entered _)

theorem anonHelloSection_hellos (hub : HubState) (room : RoomState) (connId : ConnId)
    (hello : AnonHelloFrame) (nowMs rosterAtMs : Nat) :
    AnonHellos hub room connId hello nowMs
      (anonHelloSection hub room connId hello nowMs rosterAtMs).1 := by
  unfold anonHelloSection
  split
  · exact .refused rfl rfl rfl
  · next handle =>
      split
      · exact .refused rfl rfl rfl
      · next capacity =>
          have admits : (room.anonymousMode || ((room.participants.values.all fun participant =>
              !(participant.helloSeen && !participant.anonymousMode)) &&
                (applyAnonymousZkSurcharge room.ratePerMinuteNano
                  hub.billing.anonZkExtraFeePerMinuteNano).isOk)) = true →
              anonHelloAdmits hub room connId hello = true := by
            intro enters
            unfold anonHelloAdmits
            rw [handle, capacity]
            exact enters
          split
          · split
            · exact .refused rfl rfl rfl
            · next nobody =>
                split
                · exact .refused rfl rfl rfl
                · next surcharge =>
                    refine announceAnonHello_hellos (fun _ => rfl) (fun _ _ => rfl) (admits ?_)
                    rw [List.all_eq_not_any_not, surcharge]
                    simp only [Bool.not_not, Bool.eq_false_of_not_eq_true nobody]
                    exact Bool.or_true _
          · next mode =>
              have anonymous : room.anonymousMode = true := by simpa using mode
              exact announceAnonHello_hellos (fun _ => rfl)
                (fun _ same => same.trans anonymous) (admits (by simp [anonymous]))

/-! ### Balance -/

/-- Whoever is in the room after a section was there before, and its account is
balanced. -/
def KeepsBalance (room after : RoomState) (nowMs : Nat) : Prop :=
  ∀ connId new, after.participants.get? connId = some new →
    ∃ old, room.participants.get? connId = some old ∧
      Balanced (room.accrual connId) (after.accrual connId) nowMs (billingAccount old)
        (billingAccount new)

theorem KeepsBalance.refl (room : RoomState) (nowMs : Nat) : KeepsBalance room room nowMs :=
  fun _ new found => ⟨new, found, .kept (.inl (Nat.le_refl _))⟩

/-- A section that leaves the group and the rate alone keeps the balance, if it
charges nobody for time in which nothing accrued. -/
theorem Charges.keepsBalance {room after : RoomState} {nowMs : Nat}
    {may : ConnId → ParticipantState → Prop} (charges : Charges room after nowMs may)
    (same : groupOf after = groupOf room)
    (accrued : ∀ connId old, room.participants.get? connId = some old → may connId old →
      room.accrual connId = room.ratePerMinuteNano ∨
        room.ratePerMinuteNano * (nowMs - old.lastBilledAtMs) = 0) :
    KeepsBalance room after nowMs := by
  intro connId new found
  obtain ⟨old, was, _, charge⟩ := charges.charge connId new found
  refine ⟨old, was, ?_⟩
  rw [accrual_congr same charges.rate]
  cases charge with
  | kept bill =>
      rw [billingAccount_congr bill]
      exact .kept (.inl (Nat.le_refl _))
  | skipped _ bill =>
      have moved : billingAccount new = billingAccount { old with lastBilledAtMs := nowMs } :=
        billingAccount_congr bill
      rw [moved]
      exact .settled rfl (Nat.le_add_right _ _)
  | charged mayCharge bill =>
      rw [billingAccount_congr bill]
      exact balanced_advanceBilling (accrued connId old was mayCharge)

/-- A connection that has joined and is not anonymous is in a transparent room. -/
theorem transparentRoom_of_joined {room : RoomState} {connId : ConnId}
    {participant : ParticipantState} (separated : ModeSeparated (groupOf room))
    (found : room.participants.get? connId = some participant)
    (joined : participant.helloSeen = true) (plain : participant.anonymousMode = false) :
    room.anonymousMode = false := by
  refine Bool.eq_false_iff.mpr fun anonymous => ?_
  have hidden := (separated.anonymous anonymous connId _ (members_groupOf found) joined).1
  rw [show participant.anonymousMode = true from hidden] at plain
  cases plain

theorem billingSection_balance {hub : HubState} {room : RoomState} {connId : ConnId} {nowMs : Nat}
    (guarded : (Operation.billing nowMs).chargesUnjoined hub connId room = false) :
    KeepsBalance room (billingSection hub room connId nowMs).1 nowMs := by
  refine (billingSection_charges hub room connId nowMs).keepsBalance
    (groupOf_billingSection hub room connId nowMs) ?_
  rintro other old found ⟨rfl, joined, stale⟩
  cases mode : room.anonymousMode with
  | false => exact .inl (accrual_of_joined mode ((helloSeen_of_some found).trans joined))
  | true =>
      refine .inr (owes_eq_false found (Bool.eq_false_iff.mpr fun owes => ?_))
      refine Bool.eq_false_iff.mp guarded ?_
      simp [Operation.chargesUnjoined, mode, helloSeen_of_some found, joined, found, stale mode,
        owes]

theorem paymentSection_balance {hub : HubState} {room : RoomState} {connId : ConnId}
    {payment : PaymentFrame} {nowMs : Nat} (separated : ModeSeparated (groupOf room))
    (plain : ∀ participant, room.participants.get? connId = some participant →
      participant.anonymousMode = false) :
    KeepsBalance room (paymentSection hub room connId payment nowMs).1 nowMs := by
  refine (paymentSection_charges hub room connId payment nowMs).keepsBalance
    (groupOf_paymentSection hub room connId payment nowMs) ?_
  rintro other old found ⟨rfl, joined⟩
  exact .inl (accrual_of_joined (transparentRoom_of_joined separated found joined
    (plain old found)) ((helloSeen_of_some found).trans joined))

theorem roomConfigUpdateSection_balance {hub : HubState} {room : RoomState} {connId : ConnId}
    {update : RoomConfigUpdateFrame} {nowMs : Nat} (separated : ModeSeparated (groupOf room))
    (plain : ∀ participant, room.participants.get? connId = some participant →
      participant.anonymousMode = false)
    (guarded : (Operation.roomConfigUpdate update nowMs).chargesUnjoined hub connId room = false) :
    KeepsBalance room (roomConfigUpdateSection hub room connId update nowMs).1 nowMs := by
  rcases roomConfigUpdateSection_charges hub room connId update nowMs with
    refused | ⟨⟨sender, found, joined⟩, hosts, charges⟩
  · rw [refused]
    exact .refl _ _
  · have transparent := transparentRoom_of_joined separated found joined (plain sender found)
    intro other new present
    obtain ⟨old, was, rfl⟩ := charges other new present
    refine ⟨old, was, balanced_advanceBilling ?_⟩
    cases member : room.helloSeen other with
    | true => exact .inl (accrual_of_joined transparent member)
    | false =>
        refine .inr (owes_eq_false was (Bool.eq_false_iff.mpr fun owes => ?_))
        refine Bool.eq_false_iff.mp guarded ?_
        simp only [Operation.chargesUnjoined, helloSeen_of_some found, joined, hosts,
          beq_self_eq_true, Bool.true_and, List.any_eq_true]
        exact ⟨other, HashMap.mem_keys.mpr (by simp [was]), by simp [member, owes]⟩

theorem applyAnonHelloState_account {participant joined : ParticipantState}
    {hello : AnonHelloFrame} {accrual nowMs clock : Nat} (later : nowMs ≤ clock)
    (accepted : applyAnonHelloState participant hello nowMs = .ok joined) :
    Balanced accrual 0 clock (billingAccount participant) (billingAccount joined) := by
  unfold applyAnonHelloState at accepted
  dsimp only at accepted
  split at accepted
  · cases accepted
  · cases accepted
    refine .suspended ?_ (Nat.le_refl _)
    simp only [billingAccount]
    split
    · exact later.trans (le_max_right _ _)
    · exact le_max_left _ _

/-- In an anonymous room nobody accrues anything. -/
theorem anonHelloSection_balance {hub : HubState} {room : RoomState} {connId : ConnId}
    {hello : AnonHelloFrame} {nowMs rosterAtMs : Nat} (later : nowMs ≤ rosterAtMs) :
    KeepsBalance room (anonHelloSection hub room connId hello nowMs rosterAtMs).1
      rosterAtMs := by
  intro other new present
  cases anonHelloSection_hellos hub room connId hello nowMs rosterAtMs with
  | refused participants rate same =>
      rw [accrual_congr same rate]
      rw [participants] at present
      exact ⟨new, present, .kept (.inl (Nat.le_refl _))⟩
  | @accepted participant joined anonymous _ found accepted participants =>
      rw [accrual_of_anonymous anonymous]
      rw [participants, HashMap.get?_modify] at present
      split at present
      · next same =>
          subst same
          rw [found] at present
          cases present
          exact ⟨participant, found, applyAnonHelloState_account later accepted⟩
      · exact ⟨new, present, .kept (.inl (Nat.zero_le _))⟩

/-! ### Everything else -/

/-- The participants that are left have the accounts they had. -/
structure SameAccounts (room after : RoomState) : Prop where
  rate : after.ratePerMinuteNano = room.ratePerMinuteNano
  accounts : ∀ connId new, after.participants.get? connId = some new →
    ∃ old, room.participants.get? connId = some old ∧ billOf new = billOf old

theorem SameAccounts.refl (room : RoomState) : SameAccounts room room :=
  ⟨rfl, fun _ new found => ⟨new, found, rfl⟩⟩

theorem sameAccounts_survives (actor : ConnId) (op : Operation) (start room : RoomState) :
    SurvivesEdits start actor op (SameAccounts room) where
  fields same participants _ _ _ rate := by
    refine ⟨rate.trans same.rate, fun connId new found => ?_⟩
    rw [participants] at found
    exact same.accounts connId new found
  rewritten same rewrites := by
    refine ⟨same.rate, fun connId new found => ?_⟩
    simp only [RoomState.updateParticipant, HashMap.get?_modify] at found
    split at found
    · next rewritten =>
        subst rewritten
        obtain ⟨participant, present, rfl⟩ := Option.map_eq_some_iff.mp found
        rw [(rewrites participant present).bill]
        exact same.accounts connId participant present
    · exact same.accounts connId new found
  removed target same := by
    refine ⟨same.rate, fun connId new found => ?_⟩
    simp only [removeConnection, HashMap.get?_remove] at found
    split at found
    · cases found
    · exact same.accounts connId new found
  keyed same _ _ := ⟨same.rate, same.accounts⟩
  acknowledged _ same := ⟨same.rate, same.accounts⟩
  capable _ same := ⟨same.rate, same.accounts⟩

theorem sameAccounts_disconnectSection {room after : RoomState} {connId : ConnId}
    {deltaAtMs leftAtMs : Nat}
    (left : (disconnectSection room connId deltaAtMs leftAtMs).1 = some after) :
    SameAccounts room after :=
  have survives := sameAccounts_survives connId (.disconnect deltaAtMs leftAtMs) room room
  survives.disconnectSection
    (survives.removed connId ⟨rfl, fun _ new found => ⟨new, found, rfl⟩⟩) left

end Kaigi.Hub
