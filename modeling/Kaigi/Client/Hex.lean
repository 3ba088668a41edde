import Kaigi.Client.AnonymousPeers
import Kaigi.Client.PercentEncoding

/-!
# Hexadecimal text

What `hex::encode` writes, `hex::decode` reads back. The digits are lower case, so
that a comparison in any letter case sees them as they are.
-/

set_option autoImplicit false

namespace Kaigi.Client

open Hub

theorem isHexDigit_hexDigit {value : Nat} (small : value < 16) :
    isHexDigit (hexDigit value) = true :=
  (by decide : ∀ value < 16, isHexDigit (hexDigit value) = true) value small

theorem hexValue_hexDigit {value : Nat} (small : value < 16) :
    hexValue (hexDigit value) = value :=
  (by decide : ∀ value < 16, hexValue (hexDigit value) = value) value small

theorem high_lt (byte : UInt8) : byte.toNat / 16 < 16 :=
  Nat.div_lt_of_lt_mul byte.toNat_lt

theorem low_lt (byte : UInt8) : byte.toNat % 16 < 16 :=
  Nat.mod_lt _ (by decide)

/-- The characters of an encoding satisfy what every digit satisfies. -/
theorem of_mem_hexEncode (holds : Char → Prop) (digits : ∀ value < 16, holds (hexDigit value))
    {bytes : List UInt8} {character : Char} (member : character ∈ (hexEncode bytes).toList) :
    holds character := by
  rw [hexEncode, String.toList_ofList, List.mem_flatMap] at member
  obtain ⟨byte, _, member⟩ := member
  obtain rfl | member := List.mem_cons.mp member
  · exact digits _ (high_lt byte)
  · rw [List.mem_singleton.mp member]
    exact digits _ (low_lt byte)

theorem toAsciiLowercase_hexEncode (bytes : List UInt8) :
    toAsciiLowercase (hexEncode bytes) = hexEncode bytes := by
  have unchanged : ∀ character ∈ (hexEncode bytes).toList,
      (if 'A' ≤ character && character ≤ 'Z' then Char.ofNat (character.toNat + 32)
        else character) = character := by
    intro character member
    have lower : ('A' ≤ character && character ≤ 'Z') = false :=
      of_mem_hexEncode (fun digit => (decide ('A' ≤ digit) && digit ≤ 'Z') = false)
        (by decide) member
    rw [lower]
    exact if_neg Bool.false_ne_true
  rw [toAsciiLowercase, List.map_congr_left unchanged, List.map_id', String.ofList_toList]

theorem hexDecode_hexEncode (bytes : List UInt8) :
    hexDecode (hexEncode bytes).toList = some bytes := by
  rw [hexEncode, String.toList_ofList]
  induction bytes with
  | nil => rfl
  | cons byte bytes ih =>
      have halves : 16 * (byte.toNat / 16) + byte.toNat % 16 = byte.toNat := Nat.div_add_mod _ 16
      simp only [List.flatMap_cons, List.cons_append, List.nil_append, hexDecode,
        isHexDigit_hexDigit (high_lt byte), isHexDigit_hexDigit (low_lt byte),
        hexValue_hexDigit (high_lt byte), hexValue_hexDigit (low_lt byte), halves, ih,
        Bool.and_self, if_true, Option.map_some, UInt8.ofNat_toNat]

theorem hexEncode_injective : Function.Injective hexEncode := by
  intro first second same
  have decoded := hexDecode_hexEncode first
  rw [same, hexDecode_hexEncode] at decoded
  exact (Option.some.inj decoded).symm

/-! ### Normal forms -/

theorem dropWhile_of_clean {text : List Char}
    (clean : ∀ character ∈ text, isWhitespace character = false) :
    text.dropWhile isWhitespace = text := by
  cases text with
  | nil => rfl
  | cons character text =>
      rw [List.dropWhile_cons, clean character List.mem_cons_self]
      rfl

theorem trim_of_clean {value : String}
    (clean : ∀ character ∈ value.toList, isWhitespace character = false) :
    trim value = value.toList := by
  have reversed : ∀ character ∈ value.toList.reverse, isWhitespace character = false :=
    fun character member => clean character (List.mem_reverse.mp member)
  rw [trim, dropWhile_of_clean clean, dropWhile_of_clean reversed, List.reverse_reverse]

theorem trim_hexEncode (bytes : List UInt8) : trim (hexEncode bytes) = (hexEncode bytes).toList :=
  trim_of_clean fun _ member =>
    of_mem_hexEncode (fun digit => isWhitespace digit = false) (by decide) member

/-- The second character of an encoding is a digit, so that nothing is cut off. -/
theorem stripHexPrefix_hexEncode (bytes : List UInt8) :
    stripHexPrefix (hexEncode bytes) = hexEncode bytes := by
  have digits : ∀ character ∈ (hexEncode bytes).toList, character ≠ 'x' ∧ character ≠ 'X' :=
    fun _ member => of_mem_hexEncode (fun digit => digit ≠ 'x' ∧ digit ≠ 'X') (by decide) member
  unfold stripHexPrefix
  split
  next rest shape => exact absurd rfl (digits 'x' (by simp [shape])).1
  next rest shape => exact absurd rfl (digits 'X' (by simp [shape])).2
  next => rfl

theorem length_hexEncode (bytes : List UInt8) :
    (hexEncode bytes).toList.length = bytes.length * 2 := by
  rw [hexEncode, String.toList_ofList]
  induction bytes with
  | nil => rfl
  | cons byte bytes ih =>
      rw [List.flatMap_cons, List.length_append, ih]
      exact (Nat.add_comm 2 _).trans (Nat.succ_mul bytes.length 2).symm

theorem utf8ByteSize_hexEncode (bytes : List UInt8) :
    (hexEncode bytes).utf8ByteSize = bytes.length * 2 := by
  have ascii : ∀ character ∈ (hexEncode bytes).toList, character.val ≤ 127 := fun _ member =>
    of_mem_hexEncode (fun digit => digit.val ≤ 127) (by decide) member
  have sizes := congrArg List.length (bytes_ofList ascii)
  rw [String.ofList_toList, List.length_map, length_hexEncode] at sizes
  exact sizes

theorem isValidHexLen_hexEncode (bytes : List UInt8) :
    isValidHexLen (hexEncode bytes) bytes.length = true := by
  have digits : (hexEncode bytes).toList.all isHexDigit = true :=
    List.all_eq_true.mpr fun _ member =>
      of_mem_hexEncode (fun digit => isHexDigit digit = true) (by decide) member
  rw [isValidHexLen, stripHexPrefix_hexEncode, hexDecodes, utf8ByteSize_hexEncode, digits]
  simp

/-! ### Prefixes -/

theorem mem_of_mem_trim {value : String} {character : Char} (member : character ∈ trim value) :
    character ∈ value.toList := by
  have back := (List.dropWhile_suffix _).subset (List.mem_reverse.mp member)
  exact (List.dropWhile_suffix _).subset (List.mem_reverse.mp back)

/-- What the prefix of a hexadecimal text may add to its digits. -/
theorem stripHexPrefix_cases (value : String) :
    stripHexPrefix value = value ∨
    ∃ rest, stripHexPrefix value = String.ofList rest ∧
      (value.toList = '0' :: 'x' :: rest ∨ value.toList = '0' :: 'X' :: rest) := by
  unfold stripHexPrefix
  split
  next rest shape => exact .inr ⟨rest, rfl, .inl shape⟩
  next rest shape => exact .inr ⟨rest, rfl, .inr shape⟩
  next => exact .inl rfl

theorem mem_of_mem_stripHexPrefix {value : String} {character : Char}
    (member : character ∈ (stripHexPrefix value).toList) : character ∈ value.toList := by
  obtain same | ⟨rest, same, shape⟩ := stripHexPrefix_cases value
  · rwa [same] at member
  · rw [same, String.toList_ofList] at member
    obtain shape | shape := shape <;> simp [shape, member]

/-! ### What decodes -/

theorem hexDecode_eq_some {text : List Char} {bytes : List UInt8}
    (decoded : hexDecode text = some bytes) :
    text.all isHexDigit = true ∧ text.length = bytes.length * 2 := by
  induction text using hexDecode.induct generalizing bytes with
  | case1 =>
      cases decoded
      exact ⟨rfl, rfl⟩
  | case2 => cases decoded
  | case3 high low rest digits ih =>
      rw [hexDecode, if_pos digits] at decoded
      obtain ⟨tail, found, rfl⟩ := Option.map_eq_some_iff.mp decoded
      obtain ⟨hex, size⟩ := ih found
      obtain ⟨first, second⟩ := Bool.and_eq_true_iff.mp digits
      refine ⟨by rw [List.all_cons, List.all_cons, first, second, hex]; rfl, ?_⟩
      rw [List.length_cons, List.length_cons, List.length_cons, size, Nat.succ_mul]
  | case4 high low rest digits =>
      rw [hexDecode, if_neg digits] at decoded
      cases decoded

/-- An even number of digits decodes. -/
theorem isSome_hexDecode {text : List Char} (digits : text.all isHexDigit = true)
    (even : text.length % 2 = 0) : (hexDecode text).isSome = true := by
  induction text using hexDecode.induct with
  | case1 => rfl
  | case2 => cases even
  | case3 high low rest pair ih =>
      rw [List.all_cons, List.all_cons, Bool.and_eq_true, Bool.and_eq_true] at digits
      rw [hexDecode, if_pos pair, Option.isSome_map]
      exact ih digits.2.2 ((Nat.add_mod_right _ 2).symm.trans even)
  | case4 high low rest pair =>
      rw [List.all_cons, List.all_cons, ← Bool.and_assoc, Bool.and_eq_true] at digits
      exact absurd digits.1 pair

theorem val_le_of_isHexDigit {character : Char} (digit : isHexDigit character = true) :
    character.val ≤ 127 := by
  have below : ∀ last ∈ ['9', 'f', 'F'], character ≤ last → character.val ≤ 127 := by
    intro last member least
    have bound : ['9', 'f', 'F'].all (·.val ≤ 127) = true := by decide
    exact UInt32.le_trans (show character.val ≤ last.val from least)
      (of_decide_eq_true (List.all_eq_true.mp bound last member))
  simp only [isHexDigit, Bool.or_eq_true, Bool.and_eq_true, decide_eq_true_eq] at digit
  obtain (⟨_, least⟩ | ⟨_, least⟩) | ⟨_, least⟩ := digit
  · exact below '9' (by decide) least
  · exact below 'f' (by decide) least
  · exact below 'F' (by decide) least

theorem isWhitespace_of_isHexDigit {character : Char} (digit : isHexDigit character = true) :
    isWhitespace character = false := by
  have small : character.toNat < 128 :=
    Nat.lt_succ_of_le (UInt32.le_iff_toNat_le.mp (val_le_of_isHexDigit digit))
  have visible : ∀ value < 128, isHexDigit (Char.ofNat value) = true →
      isWhitespace (Char.ofNat value) = false := by
    decide +kernel
  have holds := visible character.toNat small
  rw [Char.ofNat_toNat] at holds
  exact holds digit

theorem utf8ByteSize_of_digits {value : String} (digits : value.toList.all isHexDigit = true) :
    value.utf8ByteSize = value.toList.length := by
  have sizes := congrArg List.length (bytes_ofList fun character member =>
    val_le_of_isHexDigit (List.all_eq_true.mp digits character member))
  rw [String.ofList_toList, List.length_map] at sizes
  exact sizes

/-- The check of the hub looks past a prefix; the mark in it is no digit. -/
theorem checked_cases {value : String} (checked : hexDecodes (stripHexPrefix value) = true) :
    (stripHexPrefix value = value ∧ value.toList.all isHexDigit = true) ∨
    (stripHexPrefix value ≠ value ∧ value.toList.all isHexDigit = false ∧
      ∀ character ∈ value.toList, isWhitespace character = false) := by
  obtain ⟨_, digits⟩ := Bool.and_eq_true_iff.mp checked
  obtain same | ⟨rest, stripped, shape⟩ := stripHexPrefix_cases value
  · exact .inl ⟨same, same ▸ digits⟩
  · obtain ⟨mark, visible, noDigit, shape⟩ : ∃ mark, isWhitespace mark = false ∧
        isHexDigit mark = false ∧ value.toList = '0' :: mark :: rest := by
      obtain shape | shape := shape
      · exact ⟨'x', by decide, by decide, shape⟩
      · exact ⟨'X', by decide, by decide, shape⟩
    rw [stripped, String.toList_ofList] at digits
    refine .inr ⟨fun same => ?_, ?_, fun character member => ?_⟩
    · rw [same] at stripped
      have lengths := congrArg (fun text => text.toList.length) stripped
      simp only [shape, String.toList_ofList, List.length_cons] at lengths
      omega
    · rw [shape, List.all_cons, List.all_cons, noDigit, Bool.false_and, Bool.and_false]
    · rw [shape, List.mem_cons, List.mem_cons] at member
      obtain rfl | rfl | inside := member
      · rfl
      · exact visible
      · exact isWhitespace_of_isHexDigit (List.all_eq_true.mp digits character inside)

theorem trim_of_checked {value : String} (checked : hexDecodes (stripHexPrefix value) = true) :
    trim value = value.toList := by
  refine trim_of_clean fun character member => ?_
  obtain ⟨_, digits⟩ | ⟨_, _, visible⟩ := checked_cases checked
  · exact isWhitespace_of_isHexDigit (List.all_eq_true.mp digits character member)
  · exact visible character member

/-- What passes the check of the hub decodes at the clients unless it has a prefix. -/
theorem isSome_decodeHexVec {value : String}
    (checked : hexDecodes (stripHexPrefix value) = true) :
    (decodeHexVec value).isSome = true ↔ stripHexPrefix value = value := by
  rw [decodeHexVec, trim_of_checked checked]
  obtain ⟨same, digits⟩ | ⟨other, noDigit, _⟩ := checked_cases checked
  · obtain ⟨even, _⟩ := Bool.and_eq_true_iff.mp checked
    rw [same, utf8ByteSize_of_digits digits] at even
    exact iff_of_true (isSome_hexDecode digits (eq_of_beq even)) same
  · refine iff_of_false (fun decodes => ?_) other
    obtain ⟨bytes, decoded⟩ := Option.isSome_iff_exists.mp decodes
    rw [(hexDecode_eq_some decoded).1] at noDigit
    cases noDigit

theorem length_of_decodeHexVec {value : String} {bytes : List UInt8}
    (checked : hexDecodes (stripHexPrefix value) = true)
    (decoded : decodeHexVec value = some bytes) :
    (stripHexPrefix value).utf8ByteSize = bytes.length * 2 := by
  have bare := (isSome_decodeHexVec checked).mp (by rw [decoded]; rfl)
  rw [decodeHexVec, trim_of_checked checked] at decoded
  obtain ⟨digits, size⟩ := hexDecode_eq_some decoded
  rw [bare, utf8ByteSize_of_digits digits, size]

end Kaigi.Client
