import Kaigi.Client.JoinLinkRoundTrip

/-!
# The inputs of an unshield

The nullifiers that the ledger gets are the tokens of one argument in normal form. Each token
is checked in its normal form, and the check looks past a prefix once more.
-/

set_option autoImplicit false

namespace Kaigi.Client

open Collections Hub

def maxAnonUnshieldInputs : Nat := 256

/-- The texts between the commas of `value.split(',')`. -/
def csvTokens (value : String) : List String :=
  (value.toList.splitOn ',').map String.ofList

def validateHex32Arg (value argName : String) : Except String Unit :=
  let normalized := stripHexPrefix (String.ofList (trim value))
  if normalized.utf8ByteSize ≠ 64 ∨ hexDecode normalized.toList = none then
    .error (argName ++ " must be 32-byte hex")
  else .ok ()

/-- One round of `validate_unshield_inputs_arg`: the token joins those that were seen. -/
def validateUnshieldToken (index : Nat) (seen : HashSet String) (token : String) :
    Except String (HashSet String) :=
  if maxAnonUnshieldInputs ≤ index then
    .error s!"--anon-unshield-inputs has too many entries: max {maxAnonUnshieldInputs}"
  else
    let normalized := normalizeHexArg (String.ofList (trim token))
    match validateHex32Arg normalized "--anon-unshield-inputs" with
    | .error _ => .error s!"--anon-unshield-inputs item {index + 1} must be 32-byte hex"
    | .ok () =>
        if seen.contains normalized then
          .error s!"--anon-unshield-inputs item {index + 1} duplicates a previous nullifier"
        else .ok (seen.add normalized)

def validateUnshieldTokens : Nat → HashSet String → List String → Except String Unit
  | _, _, [] => .ok ()
  | index, seen, token :: tokens => do
      let seen ← validateUnshieldToken index seen token
      validateUnshieldTokens (index + 1) seen tokens

def validateUnshieldInputsArg (value : String) : Except String Unit :=
  validateUnshieldTokens 0 ∅ (csvTokens value)

def normalizeHex32Csv (value : String) : Except String String := do
  validateUnshieldInputsArg value
  return ",".intercalate ((csvTokens value).map fun token =>
    normalizeHexArg (String.ofList (trim token)))

/-! ### What a token denotes -/

/-- The bytes of 64 digits behind at most one prefix. -/
def denotes (token : String) : Option (List UInt8) :=
  (hexDecode (stripHexPrefix (String.ofList (trim token))).toList).filter (·.length == 32)

/-- Sixty-four lower-case digits. -/
def IsCanonicalHex32 (token : String) : Prop :=
  token.toList.length = 64 ∧
    ∀ character ∈ token.toList, character ∈ "0123456789abcdef".toList

/-- The tokens of the output, one for each token of the argument and in its order. -/
structure UnshieldList (value output : String) : Prop where
  few : (csvTokens output).length ≤ maxAnonUnshieldInputs
  canonical : ∀ token ∈ csvTokens output, IsCanonicalHex32 token
  distinct : (csvTokens output).Nodup
  same : List.Forall₂ (fun token normal => denotes token ≠ none ∧ denotes normal = denotes token)
    (csvTokens value) (csvTokens output)

/-- What the normalization of an argument promises. -/
structure NormalizesInputs (value : String) : Prop where
  succeeds : ∀ output, normalizeHex32Csv value = .ok output → UnshieldList value output
  fails : (∃ message, normalizeHex32Csv value = .error message) ↔
    (∃ token ∈ csvTokens value, denotes token = none) ∨
    ¬ ((csvTokens value).filterMap denotes).Nodup ∨
    maxAnonUnshieldInputs < (csvTokens value).length

/-- The normal form of a token, and the digits behind what is still in front of them. -/
def nullifier (token : String) : String :=
  normalizeHexArg (String.ofList (trim token))

/-- Behind its prefix the token has blanks or another prefix, and only then its digits. -/
def Nested (token : String) : Prop :=
  denotes token = none ∧ denotes (nullifier token) ≠ none

/-! ### Normal forms -/

theorem dropWhile_idem (text : List Char) :
    (text.dropWhile isWhitespace).dropWhile isWhitespace = text.dropWhile isWhitespace := by
  induction text with
  | nil => rfl
  | cons character text ih =>
      rw [List.dropWhile_cons]
      split
      · exact ih
      · next visible => rw [List.dropWhile_cons, if_neg visible]

/-- What is trimmed has nothing more to trim. -/
theorem trim_trim (value : String) : trim (String.ofList (trim value)) = trim value := by
  have front : (trim value).dropWhile isWhitespace = trim value := by
    have begins : trim value <+: value.toList.dropWhile isWhitespace := by
      rw [← List.reverse_suffix, trim, List.reverse_reverse]
      exact List.dropWhile_suffix _
    obtain ⟨rest, whole⟩ := begins
    cases shape : trim value with
    | nil => rfl
    | cons character text =>
        have visible := dropWhile_idem value.toList
        rw [← whole, shape, List.cons_append, List.dropWhile_cons] at visible
        rw [List.dropWhile_cons]
        split
        · next blank =>
            rw [if_pos blank] at visible
            have lengths := congrArg List.length visible
            have shorter : (_ : List Char).length ≤ (text ++ rest).length :=
              (List.dropWhile_suffix isWhitespace).length_le
            rw [List.length_cons] at lengths
            omega
        · rfl
  have back : (trim value).reverse.dropWhile isWhitespace = (trim value).reverse := by
    rw [trim, List.reverse_reverse, dropWhile_idem]
  rw [trim, String.toList_ofList, front, back, List.reverse_reverse]

theorem nullifier_eq (token : String) :
    nullifier token = toAsciiLowercase (stripHexPrefix (String.ofList (trim token))) := by
  rw [nullifier, normalizeHexArg, trim_trim]

theorem hexDigit_hexValue {digit : Char} (hex : isHexDigit digit = true) :
    hexDigit (hexValue digit) =
      (if 'A' ≤ digit && digit ≤ 'Z' then Char.ofNat (digit.toNat + 32) else digit) ∧
    hexValue digit < 16 := by
  have small : digit.toNat < 128 :=
    Nat.lt_succ_of_le (UInt32.le_iff_toNat_le.mp (val_le_of_isHexDigit hex))
  have checked : ∀ value < 128, isHexDigit (Char.ofNat value) = true →
      hexDigit (hexValue (Char.ofNat value)) =
        (if 'A' ≤ Char.ofNat value && Char.ofNat value ≤ 'Z' then
          Char.ofNat ((Char.ofNat value).toNat + 32) else Char.ofNat value) ∧
      hexValue (Char.ofNat value) < 16 := by
    decide +kernel
  have holds := checked digit.toNat small
  rw [Char.ofNat_toNat] at holds
  exact holds hex

/-- What decodes is, in lower case, what its bytes are encoded as. -/
theorem toAsciiLowercase_of_hexDecode {text : List Char} {bytes : List UInt8}
    (decoded : hexDecode text = some bytes) :
    toAsciiLowercase (String.ofList text) = hexEncode bytes := by
  rw [toAsciiLowercase, String.toList_ofList, hexEncode]
  congr 1
  induction text using hexDecode.induct generalizing bytes with
  | case1 =>
      cases decoded
      rfl
  | case2 => cases decoded
  | case3 high low rest digits ih =>
      rw [hexDecode, if_pos digits] at decoded
      obtain ⟨tail, found, rfl⟩ := Option.map_eq_some_iff.mp decoded
      obtain ⟨first, second⟩ := Bool.and_eq_true_iff.mp digits
      obtain ⟨highDigit, highSmall⟩ := hexDigit_hexValue first
      obtain ⟨lowDigit, lowSmall⟩ := hexDigit_hexValue second
      have byte : (UInt8.ofNat (16 * hexValue high + hexValue low)).toNat =
          16 * hexValue high + hexValue low := by
        rw [UInt8.toNat_ofNat']
        omega
      have quotient : (16 * hexValue high + hexValue low) / 16 = hexValue high := by omega
      have remainder : (16 * hexValue high + hexValue low) % 16 = hexValue low := by omega
      rw [List.map_cons, List.map_cons, ih found, List.flatMap_cons, byte, quotient, remainder,
        highDigit, lowDigit]
      rfl
  | case4 high low rest digits =>
      rw [hexDecode, if_neg digits] at decoded
      cases decoded

theorem denotes_eq_some {token : String} {bytes : List UInt8} :
    denotes token = some bytes ↔
      hexDecode (stripHexPrefix (String.ofList (trim token))).toList = some bytes ∧
        bytes.length = 32 := by
  rw [denotes, Option.filter_eq_some_iff, beq_iff_eq]

theorem denotes_hexEncode {bytes : List UInt8} (exact : bytes.length = 32) :
    denotes (hexEncode bytes) = some bytes := by
  rw [denotes_eq_some, trim_hexEncode, String.ofList_toList, stripHexPrefix_hexEncode,
    hexDecode_hexEncode]
  exact ⟨rfl, exact⟩

theorem isCanonicalHex32_hexEncode {bytes : List UInt8} (exact : bytes.length = 32) :
    IsCanonicalHex32 (hexEncode bytes) := by
  refine ⟨by rw [length_hexEncode, exact], fun character member => ?_⟩
  exact of_mem_hexEncode (fun digit => digit ∈ "0123456789abcdef".toList) (by decide +kernel) member

/-- A token that denotes bytes is normalized to their encoding. -/
theorem nullifier_of_denotes {token : String} {bytes : List UInt8}
    (denoted : denotes token = some bytes) : nullifier token = hexEncode bytes := by
  have decoded := (denotes_eq_some.mp denoted).1
  have lowered := toAsciiLowercase_of_hexDecode decoded
  rwa [String.ofList_toList, ← nullifier_eq] at lowered

theorem denotes_nullifier {token : String} {bytes : List UInt8}
    (denoted : denotes token = some bytes) : denotes (nullifier token) = some bytes := by
  rw [nullifier_of_denotes denoted]
  exact denotes_hexEncode (denotes_eq_some.mp denoted).2

/-! ### What is accepted -/

/-- The check of a text asks for the digits of 32 bytes. -/
theorem validateHex32Arg_ok {value argName : String} :
    validateHex32Arg value argName = .ok () ↔ denotes value ≠ none := by
  unfold validateHex32Arg denotes
  dsimp only
  generalize stripHexPrefix (String.ofList (trim value)) = digits
  cases decoded : hexDecode digits.toList with
  | none => simp
  | some bytes =>
      obtain ⟨hex, size⟩ := hexDecode_eq_some decoded
      rw [utf8ByteSize_of_digits hex, size]
      by_cases exact : bytes.length = 32
      · simp [exact, Option.filter]
      · have other : bytes.length * 2 ≠ 64 := by omega
        simp [exact, other, Option.filter]

theorem validateUnshieldToken_ok {index : Nat} {seen later : HashSet String} {token : String} :
    validateUnshieldToken index seen token = .ok later ↔
      index < maxAnonUnshieldInputs ∧ denotes (nullifier token) ≠ none ∧
      seen.contains (nullifier token) = false ∧ seen.add (nullifier token) = later := by
  have checked := @validateHex32Arg_ok (nullifier token) "--anon-unshield-inputs"
  rw [validateUnshieldToken, ← nullifier]
  split
  next full => simp [Nat.not_lt.mpr full]
  next room =>
    dsimp only
    split
    next failed =>
      rw [failed] at checked
      have undefined : denotes (nullifier token) = none := by simpa using checked
      simp [undefined]
    next passed =>
      rw [passed] at checked
      split
      next duplicate => simp [duplicate]
      next fresh => simp [Nat.not_le.mp room, fresh, checked.mp rfl]

theorem validateUnshieldTokens_cons {index : Nat} {seen : HashSet String} {token : String}
    {tokens : List String} :
    validateUnshieldTokens index seen (token :: tokens) = .ok () ↔
      index < maxAnonUnshieldInputs ∧ denotes (nullifier token) ≠ none ∧
      seen.contains (nullifier token) = false ∧
      validateUnshieldTokens (index + 1) (seen.add (nullifier token)) tokens = .ok () := by
  rw [validateUnshieldTokens]
  constructor
  · intro passed
    obtain ⟨later, first, rest⟩ := bind_ok passed
    obtain ⟨room, defined, fresh, rfl⟩ := validateUnshieldToken_ok.mp first
    exact ⟨room, defined, fresh, rest⟩
  · rintro ⟨room, defined, fresh, rest⟩
    rw [validateUnshieldToken_ok.mpr ⟨room, defined, fresh, rfl⟩]
    exact rest

/-- The induction goes with the rounds; what was seen are the normal forms in front. -/
theorem validateUnshieldTokens_ok {index : Nat} {seen : HashSet String} {tokens : List String}
    (below : index ≤ maxAnonUnshieldInputs) :
    validateUnshieldTokens index seen tokens = .ok () ↔
      index + tokens.length ≤ maxAnonUnshieldInputs ∧
      (∀ token ∈ tokens, denotes (nullifier token) ≠ none) ∧
      (tokens.map nullifier).Nodup ∧
      ∀ token ∈ tokens, seen.contains (nullifier token) = false := by
  induction tokens generalizing index seen with
  | nil => simp [validateUnshieldTokens, below]
  | cons token tokens ih =>
      rw [validateUnshieldTokens_cons]
      constructor
      · rintro ⟨room, defined, fresh, rest⟩
        obtain ⟨fits, others, distinct, unseen⟩ := (ih room).mp rest
        simp only [HashSet.contains_add, Bool.or_eq_false_iff, decide_eq_false_iff_not] at unseen
        refine ⟨by rw [List.length_cons]; omega, List.forall_mem_cons.mpr ⟨defined, others⟩, ?_,
          List.forall_mem_cons.mpr ⟨fresh, fun other member => (unseen other member).2⟩⟩
        refine List.nodup_cons.mpr ⟨fun member => ?_, distinct⟩
        obtain ⟨other, inside, same⟩ := List.mem_map.mp member
        exact (unseen other inside).1 same
      · rintro ⟨fits, defined, distinct, unseen⟩
        rw [List.length_cons] at fits
        obtain ⟨alone, others⟩ := List.nodup_cons.mp distinct
        have room : index < maxAnonUnshieldInputs := by omega
        refine ⟨room, defined token List.mem_cons_self, unseen token List.mem_cons_self,
          (ih room).mpr
            ⟨by omega, fun other member => defined other (List.mem_cons_of_mem _ member),
            others, fun other member => ?_⟩⟩
        rw [HashSet.contains_add, Bool.or_eq_false_iff, decide_eq_false_iff_not]
        refine ⟨fun same => alone ?_, unseen other (List.mem_cons_of_mem _ member)⟩
        rw [← same]
        exact List.mem_map_of_mem member

/-- What the validation asks of the tokens of an argument. -/
structure Passes (tokens : List String) : Prop where
  few : tokens.length ≤ maxAnonUnshieldInputs
  hex : ∀ token ∈ tokens, denotes token ≠ none ∨ Nested token
  distinct : (tokens.map nullifier).Nodup

theorem denotes_nullifier_iff {token : String} :
    denotes (nullifier token) ≠ none ↔ denotes token ≠ none ∨ Nested token := by
  cases denoted : denotes token with
  | none => simp [Nested, denoted]
  | some bytes => simp [denotes_nullifier denoted]

theorem validateUnshieldInputsArg_ok {value : String} :
    validateUnshieldInputsArg value = .ok () ↔ Passes (csvTokens value) := by
  rw [validateUnshieldInputsArg, validateUnshieldTokens_ok (Nat.zero_le _), Nat.zero_add]
  simp only [denotes_nullifier_iff, HashSet.contains_empty, implies_true, and_true]
  constructor
  · rintro ⟨few, hex, distinct⟩
    exact ⟨few, hex, distinct⟩
  · intro passes
    exact ⟨passes.few, passes.hex, passes.distinct⟩

theorem normalizeHex32Csv_ok {value output : String} :
    normalizeHex32Csv value = .ok output ↔
      Passes (csvTokens value) ∧ ",".intercalate ((csvTokens value).map nullifier) = output := by
  rw [← validateUnshieldInputsArg_ok, normalizeHex32Csv]
  constructor
  · intro normalized
    obtain ⟨_, passed, returned⟩ := bind_ok normalized
    exact ⟨passed, Except.ok.inj returned⟩
  · rintro ⟨passed, rfl⟩
    rw [passed]
    rfl

theorem normalizeHex32Csv_error {value : String} :
    (∃ message, normalizeHex32Csv value = .error message) ↔ ¬ Passes (csvTokens value) := by
  cases normalized : normalizeHex32Csv value with
  | error message =>
      refine iff_of_true ⟨message, rfl⟩ fun passes => ?_
      cases normalized.symm.trans (normalizeHex32Csv_ok.mpr ⟨passes, rfl⟩)
  | ok output =>
      refine iff_of_false ?_ (not_not_intro (normalizeHex32Csv_ok.mp normalized).1)
      rintro ⟨_, failed⟩
      cases failed

theorem csvTokens_ne_nil (value : String) : csvTokens value ≠ [] := by
  rw [csvTokens, ne_eq, List.map_eq_nil_iff]
  exact List.splitOn_ne_nil _ _

/-- Joined tokens without a comma are split again. -/
theorem csvTokens_intercalate {tokens : List String} (some : tokens ≠ [])
    (clean : ∀ token ∈ tokens, ',' ∉ token.toList) :
    csvTokens (",".intercalate tokens) = tokens := by
  have texts : ∀ text ∈ tokens.map String.toList, ',' ∉ text := by
    intro text member
    obtain ⟨token, inside, rfl⟩ := List.mem_map.mp member
    exact clean token inside
  have parts := List.splitOn_intercalate ',' texts (by simpa using some)
  rw [csvTokens, String.toList_intercalate]
  refine (congrArg (List.map String.ofList) parts).trans ?_
  simp

/-! ### Arguments without nested tokens -/

section Valid

variable {tokens : List String}

/-- Where every token denotes bytes, the normal forms are different when the bytes are. -/
theorem nodup_nullifier_iff (valid : ∀ token ∈ tokens, denotes token ≠ none) :
    (tokens.map nullifier).Nodup ↔ (tokens.filterMap denotes).Nodup := by
  have encoded : tokens.map nullifier = (tokens.filterMap denotes).map hexEncode := by
    induction tokens with
    | nil => rfl
    | cons token tokens ih =>
        obtain ⟨bytes, denoted⟩ := Option.ne_none_iff_exists'.mp (valid token List.mem_cons_self)
        rw [List.map_cons, List.filterMap_cons_some denoted, List.map_cons,
          nullifier_of_denotes denoted,
          ih fun other member => valid other (List.mem_cons_of_mem _ member)]
  rw [encoded, List.nodup_map_iff hexEncode_injective]

theorem passes_iff_of_valid (valid : ∀ token ∈ tokens, denotes token ≠ none) :
    Passes tokens ↔ tokens.length ≤ maxAnonUnshieldInputs ∧ (tokens.filterMap denotes).Nodup := by
  rw [← nodup_nullifier_iff valid]
  constructor
  · intro passes
    exact ⟨passes.few, passes.distinct⟩
  · rintro ⟨few, distinct⟩
    exact ⟨few, fun token member => .inl (valid token member), distinct⟩

theorem csvTokens_nullifiers {value : String}
    (valid : ∀ token ∈ csvTokens value, denotes token ≠ none) :
    csvTokens (",".intercalate ((csvTokens value).map nullifier)) =
      (csvTokens value).map nullifier := by
  refine csvTokens_intercalate (by simpa using csvTokens_ne_nil value) fun normal member => ?_
  obtain ⟨token, inside, rfl⟩ := List.mem_map.mp member
  obtain ⟨bytes, denoted⟩ := Option.ne_none_iff_exists'.mp (valid token inside)
  rw [nullifier_of_denotes denoted]
  intro comma
  exact of_mem_hexEncode (fun digit => digit ≠ ',') (by decide) comma rfl

theorem unshieldList_of_valid {value : String} (passes : Passes (csvTokens value))
    (valid : ∀ token ∈ csvTokens value, denotes token ≠ none) :
    UnshieldList value (",".intercalate ((csvTokens value).map nullifier)) := by
  have tokens := csvTokens_nullifiers valid
  refine ⟨?_, ?_, ?_, ?_⟩
  · rw [tokens, List.length_map]
    exact passes.few
  · rw [tokens]
    intro normal member
    obtain ⟨token, inside, rfl⟩ := List.mem_map.mp member
    obtain ⟨bytes, denoted⟩ := Option.ne_none_iff_exists'.mp (valid token inside)
    rw [nullifier_of_denotes denoted]
    exact isCanonicalHex32_hexEncode (denotes_eq_some.mp denoted).2
  · rw [tokens]
    exact passes.distinct
  · rw [tokens, List.forall₂_map_right_iff, List.forall₂_same]
    intro token inside
    obtain ⟨bytes, denoted⟩ := Option.ne_none_iff_exists'.mp (valid token inside)
    exact ⟨valid token inside, (denotes_nullifier denoted).trans denoted.symm⟩

end Valid

/-- The normalization keeps its promises exactly when nothing nested gets through. -/
theorem normalizes_inputs_iff (value : String) :
    NormalizesInputs value ↔
      ¬ (Passes (csvTokens value) ∧ ∃ token ∈ csvTokens value, Nested token) := by
  constructor
  · rintro normalizes ⟨passes, token, member, nested⟩
    have failed := normalizes.fails.mpr (.inl ⟨token, member, nested.1⟩)
    exact normalizeHex32Csv_error.mp failed passes
  · intro clean
    have valid : Passes (csvTokens value) → ∀ token ∈ csvTokens value, denotes token ≠ none :=
      fun passes token member => (passes.hex token member).resolve_right
        fun nested => clean ⟨passes, token, member, nested⟩
    refine ⟨fun output normalized => ?_, ?_⟩
    · obtain ⟨passes, rfl⟩ := normalizeHex32Csv_ok.mp normalized
      exact unshieldList_of_valid passes (valid passes)
    · rw [normalizeHex32Csv_error]
      by_cases every : ∀ token ∈ csvTokens value, denotes token ≠ none
      · have all : ¬ ∃ token ∈ csvTokens value, denotes token = none :=
          fun ⟨token, member, undefined⟩ => every token member undefined
        rw [passes_iff_of_valid every, or_iff_right all, Classical.not_and_iff_not_or_not,
          Nat.not_le, or_comm]
      · refine iff_of_true (fun passes => every (valid passes)) (.inl ?_)
        simpa using every

/-! One nullifier, once behind two prefixes and once as it is. -/

def nestedInputs : String :=
  "0x0xaaaaaaaaaaaaaaaaaaaaaaaaaaaaaaaaaaaaaaaaaaaaaaaaaaaaaaaaaaaaaaaa," ++
    "aaaaaaaaaaaaaaaaaaaaaaaaaaaaaaaaaaaaaaaaaaaaaaaaaaaaaaaaaaaaaaaa"

def nestedOutput : String :=
  "0xaaaaaaaaaaaaaaaaaaaaaaaaaaaaaaaaaaaaaaaaaaaaaaaaaaaaaaaaaaaaaaaa," ++
    "aaaaaaaaaaaaaaaaaaaaaaaaaaaaaaaaaaaaaaaaaaaaaaaaaaaaaaaaaaaaaaaa"

/-- Both copies get to the ledger, and one of them keeps a prefix. -/
theorem nested_inputs_pass :
    normalizeHex32Csv nestedInputs = .ok nestedOutput ∧ ¬ NormalizesInputs nestedInputs := by
  have normalized : normalizeHex32Csv nestedInputs = .ok nestedOutput := by decide +kernel
  refine ⟨normalized, fun normalizes => ?_⟩
  have canonical := (normalizes.succeeds nestedOutput normalized).canonical
  have prefixed : (csvTokens nestedOutput).all (·.toList.length = 64) = false := by decide +kernel
  have every : (csvTokens nestedOutput).all (·.toList.length = 64) = true :=
    List.all_eq_true.mpr fun token member => decide_eq_true (canonical token member).1
  exact Bool.false_ne_true (prefixed.symm.trans every)

end Kaigi.Client
