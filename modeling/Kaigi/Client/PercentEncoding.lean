import Mathlib.Tactic.Common

/-!
# Percent encoding

The keys and values of a join link are written byte by byte. A byte that is not
unreserved becomes `%` with two upper-case digits; the decoder also takes digits of
either case and reads `+` as a space.
-/

set_option autoImplicit false

namespace Kaigi.Client

/-- `u8::is_ascii_alphanumeric`. -/
def isAsciiAlphanumeric (byte : UInt8) : Bool :=
  (48 ≤ byte && byte ≤ 57) || (65 ≤ byte && byte ≤ 90) || (97 ≤ byte && byte ≤ 122)

/-- The bytes that stand for themselves: letters, digits, `-`, `_`, `.` and `~`. -/
def isUnreserved (byte : UInt8) : Bool :=
  isAsciiAlphanumeric byte || byte == 45 || byte == 95 || byte == 46 || byte == 126

def upperHexDigit (nibble : UInt8) : Char :=
  if nibble < 10 then Char.ofNat ('0'.toNat + nibble.toNat)
  else Char.ofNat ('A'.toNat + (nibble.toNat - 10))

def pctEncodeByte (byte : UInt8) : List Char :=
  if isUnreserved byte then [Char.ofUInt8 byte]
  else ['%', upperHexDigit (byte >>> 4), upperHexDigit (byte &&& 0x0F)]

def pctEncode (input : String) : String :=
  String.ofList (input.toByteArray.data.toList.flatMap pctEncodeByte)

def hexNibble (byte : UInt8) : Option UInt8 :=
  if 48 ≤ byte && byte ≤ 57 then some (byte - 48)
  else if 97 ≤ byte && byte ≤ 102 then some (10 + byte - 97)
  else if 65 ≤ byte && byte ≤ 70 then some (10 + byte - 65)
  else none

/-- The loop of `pct_decode`. Each access is in range by the check in front of it. -/
def pctDecodeLoop (bytes : Array UInt8) (index : Nat) (out : Array UInt8) :
    Except String (Array UInt8) :=
  if inside : index < bytes.size then
    if bytes[index] = 0x25 then
      if whole : index + 2 < bytes.size then
        match hexNibble bytes[index + 1], hexNibble bytes[index + 2] with
        | some high, some low => pctDecodeLoop bytes (index + 3) (out.push (high <<< 4 ||| low))
        | _, _ => .error "invalid percent-encoding"
      else .error "truncated percent-encoding"
    else if bytes[index] = 0x2B then pctDecodeLoop bytes (index + 1) (out.push 0x20)
    else pctDecodeLoop bytes (index + 1) (out.push bytes[index])
  else .ok out
termination_by bytes.size - index

def pctDecode (input : String) : Except String String := do
  let out ← pctDecodeLoop input.toByteArray.data 0 #[]
  match String.fromUTF8? ⟨out⟩ with
  | some text => .ok text
  | none => .error "join link percent-decoded bytes are not UTF-8"

/-! ### The decoder without its index -/

/-- What the rest of the bytes stand for. -/
def unescape : List UInt8 → Except String (List UInt8)
  | [] => .ok []
  | byte :: rest =>
      if byte = 0x25 then
        match rest with
        | high :: low :: rest =>
            match hexNibble high, hexNibble low with
            | some high, some low => (unescape rest).map ((high <<< 4 ||| low) :: ·)
            | _, _ => .error "invalid percent-encoding"
        | _ => .error "truncated percent-encoding"
      else if byte = 0x2B then (unescape rest).map (0x20 :: ·)
      else (unescape rest).map (byte :: ·)

section Unescape

variable {byte first second high low : UInt8} {rest : List UInt8}

theorem unescape_pair (firstDigit : hexNibble first = some high)
    (secondDigit : hexNibble second = some low) :
    unescape (0x25 :: first :: second :: rest) =
      (unescape rest).map ((high <<< 4 ||| low) :: ·) := by
  rw [unescape, if_pos rfl]
  simp only [firstDigit, secondDigit]

theorem unescape_no_digits
    (digits : ∀ high low, hexNibble first = some high → hexNibble second ≠ some low) :
    unescape (0x25 :: first :: second :: rest) = .error "invalid percent-encoding" := by
  rw [unescape, if_pos rfl]
  split
  · exact absurd ‹hexNibble second = _› (digits _ _ ‹_›)
  · rfl

theorem unescape_truncated (cut : rest.length < 2) :
    unescape (0x25 :: rest) = .error "truncated percent-encoding" := by
  match rest with
  | [] => rfl
  | [_] => rfl
  | _ :: _ :: _ => exact absurd cut (by simp)

theorem unescape_plus : unescape (0x2B :: rest) = (unescape rest).map (0x20 :: ·) := by
  rw [unescape.eq_def]
  rfl

theorem unescape_plain (percent : byte ≠ 0x25) (plus : byte ≠ 0x2B) :
    unescape (byte :: rest) = (unescape rest).map (byte :: ·) := by
  rw [unescape.eq_def]
  exact (if_neg percent).trans (if_neg plus)

end Unescape

theorem drop_bytes {bytes : Array UInt8} {index : Nat} (inside : index < bytes.size) :
    bytes.toList.drop index = bytes[index] :: bytes.toList.drop (index + 1) := by
  rw [List.drop_eq_getElem_cons (Array.length_toList ▸ inside), Array.getElem_toList]

/-- A byte goes to the end of what is out, or to the front of what is to come. -/
theorem map_push (result : Except String (List UInt8)) (out : Array UInt8) (byte : UInt8) :
    (result.map fun rest => out.push byte ++ rest.toArray) =
      (result.map (byte :: ·)).map fun rest => out ++ rest.toArray := by
  cases result with
  | error message => rfl
  | ok rest => simp [Except.map]

/-- The induction follows the loop; the bytes behind the index are what is left to read. -/
theorem pctDecodeLoop_eq (bytes : Array UInt8) (index : Nat) (out : Array UInt8) :
    pctDecodeLoop bytes index out =
      (unescape (bytes.toList.drop index)).map fun rest => out ++ rest.toArray := by
  fun_induction pctDecodeLoop bytes index out with
  | case1 index out inside percent whole high low secondDigit firstDigit ih =>
      rw [ih, drop_bytes inside, percent, drop_bytes (Nat.lt_of_succ_lt whole), drop_bytes whole,
        unescape_pair firstDigit secondDigit, map_push]
  | case2 index out inside percent whole digits =>
      rw [drop_bytes inside, percent, drop_bytes (Nat.lt_of_succ_lt whole), drop_bytes whole,
        unescape_no_digits digits]
      rfl
  | case3 index out inside percent cut =>
      rw [drop_bytes inside, percent,
        unescape_truncated (by rw [List.length_drop, Array.length_toList]; omega)]
      rfl
  | case4 index out inside percent plus ih =>
      rw [ih, drop_bytes inside, plus, unescape_plus, map_push]
  | case5 index out inside percent plus ih =>
      rw [ih, drop_bytes inside, unescape_plain percent plus, map_push]
  | case6 index out outside =>
      rw [List.drop_of_length_le (by simpa using outside)]
      simp [unescape, Except.map]

theorem pctDecode_of_unescape {input text : String}
    (bytes : unescape input.toByteArray.data.toList = .ok text.toByteArray.data.toList) :
    pctDecode input = .ok text := by
  have looped : pctDecodeLoop input.toByteArray.data 0 #[] = .ok text.toByteArray.data := by
    rw [pctDecodeLoop_eq, List.drop_zero, bytes]
    simp [Except.map]
  have decoded : String.fromUTF8? ⟨text.toByteArray.data⟩ = some text :=
    dif_pos text.isValidUTF8
  rw [pctDecode, looped]
  simp only [bind, Except.bind, decoded]

/-! ### What is encoded is decoded -/

/-- What holds of the first 256 numbers holds of every byte. -/
theorem forall_byte {holds : UInt8 → Prop} (all : ∀ value < 256, holds (UInt8.ofNat value))
    (byte : UInt8) : holds byte := by
  have found := all byte.toNat byte.toNat_lt
  rwa [UInt8.ofNat_toNat] at found

theorem hexNibble_upperHexDigit {nibble : UInt8} (small : nibble < 16) :
    hexNibble (upperHexDigit nibble).val.toUInt8 = some nibble := by
  have digits : ∀ value < 16, hexNibble (upperHexDigit (UInt8.ofNat value)).val.toUInt8 =
      some (UInt8.ofNat value) := by decide
  have found := digits nibble.toNat (UInt8.lt_iff_toNat_lt.mp small)
  rwa [UInt8.ofNat_toNat] at found

theorem shiftRight_lt (byte : UInt8) : byte >>> 4 < 16 := by
  have quotient : (byte >>> 4).toNat = byte.toNat / 2 ^ 4 :=
    Nat.shiftRight_eq_div_pow byte.toNat 4
  rw [UInt8.lt_iff_toNat_lt, quotient]
  exact Nat.div_lt_of_lt_mul byte.toNat_lt

theorem and_lt (byte : UInt8) : byte &&& 0x0F < 16 := by
  rw [UInt8.lt_iff_toNat_lt, UInt8.toNat_and]
  exact Nat.lt_succ_of_le Nat.and_le_right

theorem joined_nibbles : ∀ byte : UInt8, (byte >>> 4) <<< 4 ||| (byte &&& 0x0F) = byte :=
  forall_byte (by decide +kernel)

/-- The characters of an encoded text. -/
def isEscapeText (character : Char) : Bool :=
  character.val ≤ 127 && (character == '%' || isUnreserved character.val.toUInt8)

theorem pctEncodeByte_text (byte : UInt8) :
    ∀ character ∈ pctEncodeByte byte, isEscapeText character = true := by
  have checked : ∀ byte, (pctEncodeByte byte).all isEscapeText = true :=
    forall_byte (by decide +kernel)
  exact List.all_eq_true.mp (checked byte)

theorem pctEncode_text {input : String} :
    ∀ character ∈ (pctEncode input).toList, isEscapeText character = true := by
  intro character member
  rw [pctEncode, String.toList_ofList] at member
  obtain ⟨byte, _, member⟩ := List.mem_flatMap.mp member
  exact pctEncodeByte_text byte character member

/-- A text of ASCII characters has one byte for each of them. -/
theorem bytes_ofList {text : List Char} (ascii : ∀ character ∈ text, character.val ≤ 127) :
    (String.ofList text).toByteArray.data.toList = text.map (·.val.toUInt8) := by
  rw [String.toByteArray_ofList, List.utf8Encode, List.toList_data_toByteArray]
  induction text with
  | nil => rfl
  | cons character text ih =>
      have single := String.utf8EncodeChar_eq_singleton
        (Char.utf8Size_eq_one_iff.mpr (ascii character List.mem_cons_self))
      rw [List.flatMap_cons, single, ih fun other member =>
        ascii other (List.mem_cons_of_mem _ member)]
      rfl

theorem unescape_pctEncodeByte (byte : UInt8) (rest : List UInt8) :
    unescape ((pctEncodeByte byte).map (·.val.toUInt8) ++ rest) =
      (unescape rest).map (byte :: ·) := by
  unfold pctEncodeByte
  split
  next unreserved =>
    have plain : ∀ reserved, isUnreserved reserved = false → byte ≠ reserved := by
      rintro reserved bad rfl
      exact Bool.false_ne_true (bad.symm.trans unreserved)
    have back : (Char.ofUInt8 byte).val.toUInt8 = byte := UInt8.toUInt8_toUInt32 byte
    rw [List.map_singleton, back]
    exact unescape_plain (plain 0x25 (by decide)) (plain 0x2B (by decide))
  next =>
    have high := hexNibble_upperHexDigit (shiftRight_lt byte)
    have low := hexNibble_upperHexDigit (and_lt byte)
    refine (unescape_pair high low).trans ?_
    rw [joined_nibbles]
    rfl

theorem unescape_encoded (bytes : List UInt8) :
    unescape ((bytes.flatMap pctEncodeByte).map (·.val.toUInt8)) = .ok bytes := by
  induction bytes with
  | nil => rfl
  | cons byte bytes ih =>
      rw [List.flatMap_cons, List.map_append, unescape_pctEncodeByte, ih]
      rfl

theorem pctDecode_pctEncode (input : String) : pctDecode (pctEncode input) = .ok input := by
  apply pctDecode_of_unescape
  have ascii : ∀ character ∈ input.toByteArray.data.toList.flatMap pctEncodeByte,
      character.val ≤ 127 := by
    intro character member
    obtain ⟨byte, _, member⟩ := List.mem_flatMap.mp member
    exact of_decide_eq_true (Bool.and_eq_true_iff.mp (pctEncodeByte_text byte _ member)).1
  rw [pctEncode, bytes_ofList ascii, unescape_encoded]

end Kaigi.Client
