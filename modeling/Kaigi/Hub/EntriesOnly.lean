import Kaigi.Hub.Operation

/-!
# Operations that only write entries

Billing, media and key updates write into the entries of participants, and an
accepted rate change into the rate as well. What the room as a whole has agreed
on, and the numbers of its presence frames, they leave alone.
-/

set_option autoImplicit false

namespace Kaigi.Hub

open Collections Wire

/-- `after` differs from `room` at most in the entries of the participants, the
limits that the host configures and the notices of dropped messages. -/
inductive EntriesOnly (room : RoomState) : RoomState → Prop where
  | entries (participants : HashMap ConnId ParticipantState)
      (ratePerMinuteNano maxScreenShares dropped noticedAtMs : Nat) :
      EntriesOnly room { room with
        participants
        ratePerMinuteNano
        maxScreenShares
        backpressureDroppedMessages := dropped
        backpressureLastNoticeAtMs := noticedAtMs }

/-- The operations that number no presence frame, sign nothing and give no role. -/
def Operation.writesEntries : Operation → Bool
  | .billing _ | .backpressure _ _ | .groupKeyUpdate _ | .escrowProof _ _ | .participantState _ _
  | .mediaTrackState _ _ | .roomConfigUpdate _ _ | .payment _ _ => true
  | _ => false

section Sections

variable {room : RoomState} {connId : ConnId}

theorem EntriesOnly.refl : EntriesOnly room room :=
  .entries ..

theorem billingSection_entries (hub : HubState) (nowMs : Nat) :
    EntriesOnly room (billingSection hub room connId nowMs).1 := by
  unfold billingSection
  split
  · exact .refl
  · next participant _ =>
      dsimp only
      by_cases skipped : ((room.anonymousMode || participant.anonymousMode) &&
          (if room.anonymousMode || participant.anonymousMode then
            escrowDisconnectMessage hub.billing participant nowMs else none).isNone) = true
      · rw [if_pos skipped]
        exact .refl
      · rw [if_neg skipped]
        exact .entries ..

theorem backpressureSection_entries (dropped nowMs : Nat) :
    EntriesOnly room (backpressureSection room dropped nowMs).1 := by
  unfold backpressureSection
  dsimp only
  split <;> exact .entries ..

theorem groupKeyUpdateSection_entries (update : GroupKeyUpdateFrame) :
    EntriesOnly room (groupKeyUpdateSection room connId update).1 := by
  unfold groupKeyUpdateSection
  split
  · exact .refl
  · split
    · exact .refl
    · split
      · exact .refl
      · split
        · exact .refl
        · split
          · exact .refl
          · exact .refl
          · exact .entries ..

theorem escrowProofSection_entries (proof : EscrowProofFrame) (nowMs : Nat) :
    EntriesOnly room (escrowProofSection room connId proof nowMs).1 := by
  unfold escrowProofSection
  split
  · exact .refl
  · dsimp only
    split
    · exact .refl
    · exact .entries ..

theorem participantStateSection_entries (update : ParticipantStateFrame) (atMs : Nat) :
    EntriesOnly room (participantStateSection room connId update atMs).1 := by
  unfold participantStateSection
  split
  · exact .refl
  · split
    · exact .refl
    · split
      · exact .refl
      · exact .entries ..

theorem mediaTrackStateSection_entries (track : MediaTrackStateFrame) (atMs : Nat) :
    EntriesOnly room (mediaTrackStateSection room connId track atMs).1 := by
  unfold mediaTrackStateSection
  split
  · exact .refl
  · split
    · exact .refl
    · split
      · exact .refl
      · exact .entries ..

theorem roomConfigUpdateSection_entries (hub : HubState) (update : RoomConfigUpdateFrame)
    (nowMs : Nat) : EntriesOnly room (roomConfigUpdateSection hub room connId update nowMs).1 := by
  unfold roomConfigUpdateSection
  split
  · exact .refl
  · split
    · exact .refl
    · split
      · exact .refl
      · exact .entries ..

theorem paymentSection_entries (hub : HubState) (payment : PaymentFrame) (nowMs : Nat) :
    EntriesOnly room (paymentSection hub room connId payment nowMs).1 := by
  unfold paymentSection
  split
  · exact .refl
  · split
    · exact .entries ..
    · dsimp only
      split <;> exact .entries ..

end Sections

theorem Operation.updateRoom_entries {op : Operation} (writes : op.writesEntries = true)
    (hub : HubState) (connId : ConnId) (room : RoomState) :
    EntriesOnly room (op.updateRoom hub connId room) := by
  cases op with
  | billing nowMs => exact billingSection_entries hub nowMs
  | backpressure dropped nowMs => exact backpressureSection_entries dropped nowMs
  | groupKeyUpdate update => exact groupKeyUpdateSection_entries update
  | escrowProof proof nowMs => exact escrowProofSection_entries proof nowMs
  | participantState update atMs => exact participantStateSection_entries update atMs
  | mediaTrackState track atMs => exact mediaTrackStateSection_entries track atMs
  | roomConfigUpdate update nowMs => exact roomConfigUpdateSection_entries hub update nowMs
  | payment payment nowMs => exact paymentSection_entries hub payment nowMs
  | _ => cases writes

end Kaigi.Hub
