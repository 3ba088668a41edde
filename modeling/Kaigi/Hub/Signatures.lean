import Kaigi.Client.Hex
import Kaigi.Text.Fields
import Kaigi.Hub.Scripts

/-!
# What a signature binds

The digest behind a signature covers a tag and the fields of the frame behind bars.
All fields but the participants are free of bars, so the payload gives them back;
where two participants stand next to each other the bar between them may lie in two
places.
-/

set_option autoImplicit false

namespace Kaigi.Hub

open Wire Client Text

inductive SignedKind where
  | roleGrant
  | roleRevoke
  | moderationSigned
  | sessionPolicy
  | e2eeKeyEpoch
deriving DecidableEq

def SignedKind.tag : SignedKind → String
  | .roleGrant => "role_grant"
  | .roleRevoke => "role_revoke"
  | .moderationSigned => "moderation"
  | .sessionPolicy => "session_policy"
  | .e2eeKeyEpoch => "e2ee_key_epoch"

/-- No tag is an initial part of another one. -/
theorem SignedKind.eq_of_tag_prefix {first second : SignedKind}
    (front : first.tag.toList <+: second.tag.toList) : first = second := by
  cases first <;> cases second <;> first | rfl | exact absurd front (by decide)

/-- The frames that carry a signature. -/
inductive SignedFrame where
  | roleGrant (grant : RoleGrantFrame)
  | roleRevoke (revoke : RoleRevokeFrame)
  | moderationSigned (moderation : ModerationSignedFrame)
  | sessionPolicy (policy : SessionPolicyFrame)
  | e2eeKeyEpoch (frame : E2EEKeyEpochFrame)

namespace SignedFrame

def signatureIsValid (hub : HubState) : SignedFrame → Bool
  | .roleGrant grant => roleGrantSignatureIsValid hub grant
  | .roleRevoke revoke => roleRevokeSignatureIsValid hub revoke
  | .moderationSigned moderation => moderationSignedSignatureIsValid hub moderation
  | .sessionPolicy policy => sessionPolicySignatureIsValid hub policy
  | .e2eeKeyEpoch frame => e2eePublicKeyIsValid hub frame && e2eeSignatureIsValid hub frame

def signatureHex : SignedFrame → String
  | .roleGrant grant => grant.signatureHex
  | .roleRevoke revoke => revoke.signatureHex
  | .moderationSigned moderation => moderation.signatureHex
  | .sessionPolicy policy => policy.signatureHex
  | .e2eeKeyEpoch frame => frame.signatureHex

/-- The participant that the signature speaks for. -/
def issuer : SignedFrame → String
  | .roleGrant grant => grant.grantedBy
  | .roleRevoke revoke => revoke.revokedBy
  | .moderationSigned moderation => moderation.issuedBy
  | .sessionPolicy policy => policy.updatedBy
  | .e2eeKeyEpoch frame => frame.participantId

/-- The frame as far as its signature is meant to cover it: all fields but the
signature and the key, which has a digest of its own. -/
def covered : SignedFrame → SignedFrame
  | .roleGrant grant => .roleGrant { grant with signatureHex := "" }
  | .roleRevoke revoke => .roleRevoke { revoke with signatureHex := "" }
  | .moderationSigned moderation => .moderationSigned { moderation with signatureHex := "" }
  | .sessionPolicy policy => .sessionPolicy { policy with signatureHex := "" }
  | .e2eeKeyEpoch frame => .e2eeKeyEpoch { frame with signatureHex := "", publicKeyHex := "" }

def kind : SignedFrame → SignedKind
  | .roleGrant _ => .roleGrant
  | .roleRevoke _ => .roleRevoke
  | .moderationSigned _ => .moderationSigned
  | .sessionPolicy _ => .sessionPolicy
  | .e2eeKeyEpoch _ => .e2eeKeyEpoch

/-- The participants in front of the other fields. -/
def participants : SignedFrame → String
  | .roleGrant grant => grant.grantedBy ++ "|" ++ grant.targetParticipantId
  | .roleRevoke revoke => revoke.revokedBy ++ "|" ++ revoke.targetParticipantId
  | .moderationSigned moderation =>
      moderation.issuedBy ++ "|" ++ moderationTargetToken moderation.target
  | .sessionPolicy policy => policy.updatedBy
  | .e2eeKeyEpoch frame => frame.participantId

/-- The fields behind the participants. -/
def values : SignedFrame → List String
  | .roleGrant grant => [roleKindToken grant.role, toString grant.issuedAtMs]
  | .roleRevoke revoke => [roleKindToken revoke.role, toString revoke.issuedAtMs]
  | .moderationSigned moderation =>
      [moderationActionToken moderation.action, toString moderation.sentAtMs]
  | .sessionPolicy policy =>
      [toString policy.roomLock, toString policy.waitingRoomEnabled,
        toString policy.guestJoinAllowed, toString policy.localRecordingAllowed,
        toString policy.e2eeRequired, toString policy.maxParticipants,
        toString policy.policyEpoch, toString policy.updatedAtMs]
  | .e2eeKeyEpoch frame => [toString frame.epoch, toString frame.sentAtMs]

/-- The text that is digested. -/
def signedText (frame : SignedFrame) : String :=
  frame.kind.tag ++ (frame.values.foldl (fun text value => text ++ "|" ++ value) frame.participants)

/-- The issuer of the second frame goes on behind a bar where the issuer of the first
one ends. -/
def Overruns (first second : SignedFrame) : Prop :=
  (first.issuer ++ "|").toList <+: second.issuer.toList

instance (first second : SignedFrame) : Decidable (Overruns first second) :=
  inferInstanceAs (Decidable ((first.issuer ++ "|").toList <+: second.issuer.toList))

/-! ### The signed text gives the fields back -/

theorem signatureIsValid_eq {hub : HubState} {frame : SignedFrame}
    (valid : frame.signatureIsValid hub = true) :
    hexEncode (hub.blake3 frame.signedText).toList = toAsciiLowercase frame.signatureHex := by
  cases frame with
  | e2eeKeyEpoch frame => exact beq_iff_eq.mp (Bool.and_eq_true_iff.mp valid).2
  | _ => exact beq_iff_eq.mp valid

theorem bar_not_mem_toString (number : Nat) : '|' ∉ (toString number).toList := by
  intro member
  rw [Nat.toString_eq_repr, Nat.toList_repr] at member
  have digit := Nat.isDigit_of_mem_toDigits (by decide) (by decide) member
  exact absurd digit (by decide)

theorem toString_nat_injective : Function.Injective (toString : Nat → String) := by
  intro first second same
  rw [Nat.toString_eq_repr, Nat.toString_eq_repr] at same
  have digits := congrArg String.toList same
  rw [Nat.toList_repr, Nat.toList_repr] at digits
  have values := congrArg (Nat.ofDigitChars 10 · 0) digits
  simpa only [Nat.ofDigitChars_ten_toDigits] using values

theorem bar_not_mem_toString_bool (flag : Bool) : '|' ∉ (toString flag).toList := by
  cases flag <;> decide

theorem toString_bool_injective : Function.Injective (toString : Bool → String) := by
  intro first second same
  cases first <;> cases second <;> first | rfl | exact absurd same (by decide)

theorem roleKindToken_injective : Function.Injective roleKindToken := by
  intro first second same
  cases first <;> cases second <;> first | rfl | exact absurd same (by decide)

theorem moderationActionToken_injective : Function.Injective moderationActionToken := by
  intro first second same
  cases first <;> cases second <;> first | rfl | exact absurd same (by decide)

theorem bar_not_mem_roleKindToken (role : RoleKind) : '|' ∉ (roleKindToken role).toList := by
  cases role <;> decide

theorem bar_not_mem_moderationActionToken (action : ModerationAction) :
    '|' ∉ (moderationActionToken action).toList := by
  cases action <;> decide

theorem moderationTargetToken_participant (participantId : String) :
    (moderationTargetToken (.participant participantId)).toList =
      "participant:".toList ++ participantId.toList :=
  String.toList_append

theorem moderationTargetToken_injective : Function.Injective moderationTargetToken := by
  intro first second same
  have letters := congrArg String.toList same
  cases first with
  | all =>
      cases second with
      | all => rfl
      | participant participantId =>
          rw [moderationTargetToken_participant] at letters
          exact absurd (List.cons.inj letters).1 (by decide)
  | participant participantId =>
      rw [moderationTargetToken_participant] at letters
      cases second with
      | all => exact absurd (List.cons.inj letters).1 (by decide)
      | participant other =>
          rw [moderationTargetToken_participant] at letters
          rw [String.toList_inj.mp (List.append_cancel_left letters)]

theorem values_separated (frame : SignedFrame) :
    Separated '|' (frame.values.map String.toList) := by
  refine List.forall_mem_map.mpr ?_
  cases frame with
  | roleGrant grant | roleRevoke revoke =>
      simp only [values, List.forall_mem_cons]
      exact ⟨bar_not_mem_roleKindToken _, bar_not_mem_toString _, nofun⟩
  | moderationSigned moderation =>
      simp only [values, List.forall_mem_cons]
      exact ⟨bar_not_mem_moderationActionToken _, bar_not_mem_toString _, nofun⟩
  | sessionPolicy policy =>
      simp only [values, List.forall_mem_cons]
      exact ⟨bar_not_mem_toString_bool _, bar_not_mem_toString_bool _,
        bar_not_mem_toString_bool _, bar_not_mem_toString_bool _, bar_not_mem_toString_bool _,
        bar_not_mem_toString _, bar_not_mem_toString _, bar_not_mem_toString _, nofun⟩
  | e2eeKeyEpoch frame =>
      simp only [values, List.forall_mem_cons]
      exact ⟨bar_not_mem_toString _, bar_not_mem_toString _, nofun⟩

theorem toList_foldl_values (values : List String) (participants : String) :
    (values.foldl (fun text value => text ++ "|" ++ value) participants).toList =
      participants.toList ++ trailed '|' (values.map String.toList) := by
  induction values generalizing participants with
  | nil => exact (List.append_nil _).symm
  | cons value values ih =>
      rw [List.foldl_cons, ih]
      simp only [String.toList_append, List.append_assoc]
      rfl

theorem toList_signedText (frame : SignedFrame) :
    frame.signedText.toList = frame.kind.tag.toList ++
      (frame.participants.toList ++ trailed '|' (frame.values.map String.toList)) := by
  rw [signedText, String.toList_append, toList_foldl_values]

theorem kind_eq_of_signedText_eq {first second : SignedFrame}
    (same : first.signedText = second.signedText) : first.kind = second.kind := by
  have front := List.prefix_append first.kind.tag.toList
    (first.participants.toList ++ trailed '|' (first.values.map String.toList))
  rw [← toList_signedText, same, toList_signedText] at front
  obtain shorter | longer :=
    List.prefix_or_prefix_of_prefix front (List.prefix_append second.kind.tag.toList _)
  · exact SignedKind.eq_of_tag_prefix shorter
  · exact (SignedKind.eq_of_tag_prefix longer).symm

theorem length_values {first second : SignedFrame} (kinds : first.kind = second.kind) :
    first.values.length = second.values.length := by
  cases first <;> cases second <;> first | rfl | cases kinds

/-- The signed text gives the kind, the participants and the values back. -/
theorem parts_eq_of_signedText_eq {first second : SignedFrame}
    (same : first.signedText = second.signedText) :
    first.kind = second.kind ∧ first.participants = second.participants ∧
      first.values = second.values := by
  have kinds := kind_eq_of_signedText_eq same
  have letters := congrArg String.toList same
  rw [toList_signedText, toList_signedText, kinds, List.append_cancel_left_eq] at letters
  obtain ⟨participants, values⟩ := trailed_inj first.values_separated second.values_separated
    (by simpa using length_values kinds) letters
  exact ⟨kinds, String.toList_inj.mp participants,
    List.map_injective_iff.mpr (fun _ _ => String.toList_inj.mp) values⟩

theorem target_eq {issuer target other : String}
    (participants : issuer ++ "|" ++ target = issuer ++ "|" ++ other) : target = other := by
  have letters := congrArg String.toList participants
  simp only [String.toList_append, List.append_cancel_left_eq] at letters
  exact String.toList_inj.mp letters

/-- If the issuers are the same, then all that the signature covers is. -/
theorem covered_eq_of_signedText_eq {first second : SignedFrame}
    (same : first.signedText = second.signedText) (issuers : first.issuer = second.issuer) :
    first.covered = second.covered := by
  obtain ⟨kinds, participants, values⟩ := parts_eq_of_signedText_eq same
  cases first with
  | roleGrant grant =>
      cases second with
      | roleGrant other =>
          obtain ⟨_, _, _, _, _⟩ := grant
          obtain ⟨_, _, _, _, _⟩ := other
          cases issuers
          cases target_eq participants
          obtain ⟨role, values⟩ := List.cons.inj values
          cases roleKindToken_injective role
          cases toString_nat_injective (List.singleton_inj.mp values)
          rfl
      | _ => cases kinds
  | roleRevoke revoke =>
      cases second with
      | roleRevoke other =>
          obtain ⟨_, _, _, _, _⟩ := revoke
          obtain ⟨_, _, _, _, _⟩ := other
          cases issuers
          cases target_eq participants
          obtain ⟨role, values⟩ := List.cons.inj values
          cases roleKindToken_injective role
          cases toString_nat_injective (List.singleton_inj.mp values)
          rfl
      | _ => cases kinds
  | moderationSigned moderation =>
      cases second with
      | moderationSigned other =>
          obtain ⟨_, _, _, _, _⟩ := moderation
          obtain ⟨_, _, _, _, _⟩ := other
          cases issuers
          cases moderationTargetToken_injective (target_eq participants)
          obtain ⟨action, values⟩ := List.cons.inj values
          cases moderationActionToken_injective action
          cases toString_nat_injective (List.singleton_inj.mp values)
          rfl
      | _ => cases kinds
  | sessionPolicy policy =>
      cases second with
      | sessionPolicy other =>
          obtain ⟨_, _, _, _, _, _, _, _, _, _⟩ := policy
          obtain ⟨_, _, _, _, _, _, _, _, _, _⟩ := other
          cases issuers
          simp only [SignedFrame.values, List.cons.injEq, and_true] at values
          obtain ⟨lock, waiting, guests, recording, e2ee, capacity, epoch, at_⟩ := values
          cases toString_bool_injective lock
          cases toString_bool_injective waiting
          cases toString_bool_injective guests
          cases toString_bool_injective recording
          cases toString_bool_injective e2ee
          cases toString_nat_injective capacity
          cases toString_nat_injective epoch
          cases toString_nat_injective at_
          rfl
      | _ => cases kinds
  | e2eeKeyEpoch frame =>
      cases second with
      | e2eeKeyEpoch other =>
          obtain ⟨_, _, _, _, _⟩ := frame
          obtain ⟨_, _, _, _, _⟩ := other
          cases issuers
          obtain ⟨epoch, values⟩ := List.cons.inj values
          cases toString_nat_injective epoch
          cases toString_nat_injective (List.singleton_inj.mp values)
          rfl
      | _ => cases kinds

theorem overruns_of_append {issuer target other rest : String}
    (same : issuer ++ "|" ++ target = other ++ "|" ++ rest) :
    issuer = other ∨ (issuer ++ "|").toList <+: other.toList ∨
      (other ++ "|").toList <+: issuer.toList := by
  have letters := congrArg String.toList same
  simp only [String.toList_append, List.append_assoc] at letters
  obtain equal | overlap := fronts_overlap letters
  · exact .inl (String.toList_inj.mp equal)
  · rw [String.toList_append, String.toList_append]
    exact .inr overlap

/-- One signed text has two issuers only if one of them goes on behind a bar where the
other one ends. -/
theorem issuer_eq_or_overruns {first second : SignedFrame}
    (same : first.signedText = second.signedText) :
    first.issuer = second.issuer ∨ first.Overruns second ∨ second.Overruns first := by
  obtain ⟨kinds, participants, _⟩ := parts_eq_of_signedText_eq same
  cases first with
  | roleGrant | roleRevoke | moderationSigned =>
      cases second <;> first | exact overruns_of_append participants | cases kinds
  | sessionPolicy | e2eeKeyEpoch =>
      cases second <;> first | exact .inl participants | cases kinds

theorem issuer_covered (frame : SignedFrame) : frame.covered.issuer = frame.issuer := by
  cases frame <;> rfl

theorem not_overruns_self {first second : SignedFrame} (issuers : first.issuer = second.issuer) :
    ¬ first.Overruns second := by
  unfold Overruns
  rw [issuers, String.toList_append]
  exact not_append_prefix _

end SignedFrame

/-- Two frames that pass with one signature agree in kind and in all that the signature
covers exactly if neither issuer overruns the other. -/
theorem signature_binds_iff (hub : HubState) (first second : SignedFrame)
    (collisionFree : hub.blake3 first.signedText = hub.blake3 second.signedText →
      first.signedText = second.signedText)
    (firstValid : first.signatureIsValid hub = true)
    (secondValid : second.signatureIsValid hub = true)
    (same : toAsciiLowercase first.signatureHex = toAsciiLowercase second.signatureHex) :
    first.kind = second.kind ∧ first.covered = second.covered ↔
      ¬ first.Overruns second ∧ ¬ second.Overruns first := by
  rw [← SignedFrame.signatureIsValid_eq firstValid, ← SignedFrame.signatureIsValid_eq secondValid]
    at same
  have texts := collisionFree (Vector.toList_inj.mp (hexEncode_injective same))
  constructor
  · rintro ⟨_, covered⟩
    have issuers := congrArg SignedFrame.issuer covered
    rw [SignedFrame.issuer_covered, SignedFrame.issuer_covered] at issuers
    exact ⟨SignedFrame.not_overruns_self issuers, SignedFrame.not_overruns_self issuers.symm⟩
  · rintro ⟨notFirst, notSecond⟩
    have issuers := (SignedFrame.issuer_eq_or_overruns texts).resolve_right
      (not_or_intro notFirst notSecond)
    exact ⟨SignedFrame.kind_eq_of_signedText_eq texts,
      SignedFrame.covered_eq_of_signedText_eq texts issuers⟩

/-- A grant of `grantedBy` to `target`, signed for alice, bob and carol. -/
def barredGrant (hub : HubState) (grantedBy target : String) : SignedFrame :=
  .roleGrant {
    issuedAtMs := 1
    targetParticipantId := target
    role := .coHost
    grantedBy := grantedBy
    signatureHex := deterministicSignatureHex hub "role_grant" "alice|bob|carol|cohost|1" }

theorem barredGrant_signedText (hub : HubState) {grantedBy target : String}
    (text : grantedBy ++ "|" ++ target = "alice|bob|carol") :
    (barredGrant hub grantedBy target).signedText =
      "role_grant" ++ "alice|bob|carol|cohost|1" := by
  have payload : grantedBy ++ "|" ++ target ++ "|" ++ "cohost" ++ "|" ++ toString 1 =
      "alice|bob|carol|cohost|1" := by
    rw [text]
    decide
  exact congrArg ("role_grant" ++ ·) payload

theorem barredGrant_valid (hub : HubState) {grantedBy target : String}
    (text : grantedBy ++ "|" ++ target = "alice|bob|carol") :
    (barredGrant hub grantedBy target).signatureIsValid hub = true := by
  have digested : hexEncode (hub.blake3 (barredGrant hub grantedBy target).signedText).toList =
      deterministicSignatureHex hub "role_grant" "alice|bob|carol|cohost|1" := by
    rw [barredGrant_signedText hub text, deterministicSignatureHex]
  exact beq_iff_eq.mpr (digested.trans (toAsciiLowercase_hexEncode _).symm)

/-- One signature fits a grant of alice to `bob|carol` and one of `alice|bob` to carol,
whatever the digest. -/
theorem signature_binds_fails :
    ¬ ∃ hub : HubState, ∀ first second : SignedFrame,
      (hub.blake3 first.signedText = hub.blake3 second.signedText →
        first.signedText = second.signedText) →
      first.signatureIsValid hub = true → second.signatureIsValid hub = true →
      toAsciiLowercase first.signatureHex = toAsciiLowercase second.signatureHex →
        first.kind = second.kind ∧ first.covered = second.covered := by
  rintro ⟨hub, binds⟩
  have first : "alice" ++ "|" ++ "bob|carol" = "alice|bob|carol" := by decide
  have second : "alice|bob" ++ "|" ++ "carol" = "alice|bob|carol" := by decide
  obtain ⟨_, covered⟩ := binds (barredGrant hub "alice" "bob|carol")
    (barredGrant hub "alice|bob" "carol")
    (fun _ => (barredGrant_signedText hub first).trans (barredGrant_signedText hub second).symm)
    (barredGrant_valid hub first) (barredGrant_valid hub second) rfl
  have issuers : "alice" = "alice|bob" := congrArg SignedFrame.issuer covered
  exact absurd issuers (by decide)

/-- A grant of alice to bob, whose digest the scripts know, in both letter cases. -/
theorem signature_binds_iff_script :
    let lower : SignedFrame := .roleGrant {
      issuedAtMs := 1
      targetParticipantId := "bob@sora"
      role := .coHost
      grantedBy := "alice@sora"
      signatureHex := "2ab2dd3252b63515919e5a0db9207b1c7395922325c36bb2ef7bc74e4b708119" }
    let upper : SignedFrame := .roleGrant {
      issuedAtMs := 1
      targetParticipantId := "bob@sora"
      role := .coHost
      grantedBy := "alice@sora"
      signatureHex := "2AB2DD3252B63515919E5A0DB9207B1C7395922325C36BB2EF7BC74E4B708119" }
    lower.kind = upper.kind ∧ lower.covered = upper.covered ↔
      ¬ lower.Overruns upper ∧ ¬ upper.Overruns lower :=
  signature_binds_iff (scriptedHub []) _ _ (fun _ => rfl) (by decide +kernel)
    (by decide +kernel) (by decide +kernel)

end Kaigi.Hub
