import Kaigi.Client.Hex

/-!
# What percent encoding accepts and writes

An encoded text is a row of unreserved characters and escapes. The decoder never reads out of
range, and it fails exactly on a `%` without two digits and on bytes that are not UTF-8.
-/

set_option autoImplicit false

namespace Kaigi.Client

open Hub

/-! ### Encoded texts -/

/-- The characters that need no escape. -/
def isUnreservedCharacter (character : Char) : Bool :=
  character.isAlphanum || ['-', '_', '.', '~'].contains character

def isUpperHexDigit (character : Char) : Bool :=
  "0123456789ABCDEF".toList.contains character

/-- One unreserved character, or `%` and two upper-case digits. -/
inductive EncodedUnit : List Char → Prop where
  | plain {character : Char} : isUnreservedCharacter character = true → EncodedUnit [character]
  | escape {high low : Char} : isUpperHexDigit high = true → isUpperHexDigit low = true →
      EncodedUnit ['%', high, low]

/-- The text is a row of such units. -/
def IsPercentEncoded (text : List Char) : Prop :=
  ∃ parts : List (List Char), text = parts.flatten ∧ ∀ part ∈ parts, EncodedUnit part

theorem encodedUnit_pctEncodeByte (byte : UInt8) : EncodedUnit (pctEncodeByte byte) := by
  have checked : ∀ byte, if isUnreserved byte then
        isUnreservedCharacter (Char.ofUInt8 byte) = true
      else isUpperHexDigit (upperHexDigit (byte >>> 4)) = true ∧
        isUpperHexDigit (upperHexDigit (byte &&& 0x0F)) = true :=
    forall_byte (by decide +kernel)
  have found := checked byte
  unfold pctEncodeByte
  split
  next unreserved =>
    rw [if_pos unreserved] at found
    exact .plain found
  next reserved =>
    rw [if_neg reserved] at found
    exact .escape found.1 found.2

theorem isPercentEncoded_pctEncode (input : String) :
    IsPercentEncoded (pctEncode input).toList := by
  refine ⟨input.toByteArray.data.toList.map pctEncodeByte, ?_, fun part member => ?_⟩
  · rw [pctEncode, String.toList_ofList, List.flatMap_def]
  · obtain ⟨byte, _, rfl⟩ := List.mem_map.mp member
    exact encodedUnit_pctEncodeByte byte

/-! ### Accesses in range -/

/-- The rounds of the loop of `pct_decode`, for at most `fuel` rounds. There is no result when
the rounds do not suffice, and none when an access is out of range. -/
def pctDecodeRounds (bytes : Array UInt8) :
    Nat → Nat → Array UInt8 → Option (Except String (Array UInt8))
  | 0, _, _ => none
  | fuel + 1, index, out =>
      if index < bytes.size then
        bytes[index]?.bind fun byte =>
          if byte = 0x25 then
            if bytes.size ≤ index + 2 then some (.error "truncated percent-encoding")
            else bytes[index + 1]?.bind fun first =>
              match hexNibble first with
              | none => some (.error "invalid percent-encoding")
              | some high => bytes[index + 2]?.bind fun second =>
                  match hexNibble second with
                  | none => some (.error "invalid percent-encoding")
                  | some low =>
                      pctDecodeRounds bytes fuel (index + 3) (out.push (high <<< 4 ||| low))
          else if byte = 0x2B then pctDecodeRounds bytes fuel (index + 1) (out.push 0x20)
          else pctDecodeRounds bytes fuel (index + 1) (out.push byte)
      else some (.ok out)

/-- A round for each byte that is left suffices, and one to find that none is. -/
theorem pctDecodeRounds_eq {bytes : Array UInt8} {fuel index : Nat} (out : Array UInt8)
    (enough : bytes.size - index < fuel) :
    pctDecodeRounds bytes fuel index out = some (pctDecodeLoop bytes index out) := by
  induction fuel generalizing index out with
  | zero => exact absurd enough (Nat.not_lt_zero _)
  | succ fuel ih =>
      unfold pctDecodeRounds pctDecodeLoop
      by_cases inside : index < bytes.size
      · rw [if_pos inside, dif_pos inside, Array.getElem?_eq_getElem inside, Option.bind_some]
        split
        next percent =>
          by_cases whole : index + 2 < bytes.size
          · rw [if_neg (Nat.not_le.mpr whole), dif_pos whole,
              Array.getElem?_eq_getElem (Nat.lt_of_succ_lt whole), Option.bind_some]
            cases first : hexNibble bytes[index + 1] with
            | none => rfl
            | some high =>
                dsimp only
                rw [Array.getElem?_eq_getElem whole, Option.bind_some]
                cases second : hexNibble bytes[index + 2] with
                | none => rfl
                | some low => exact ih _ (by omega)
          · rw [if_pos (Nat.le_of_not_lt whole), dif_neg whole]
        next =>
          split
          · exact ih _ (by omega)
          · exact ih _ (by omega)
      · rw [if_neg inside, dif_neg inside]

/-! ### What the bytes stand for -/

def isHexByte (byte : UInt8) : Bool :=
  isHexDigit (Char.ofUInt8 byte)

/-- The byte that two digits denote. -/
def digitsByte (high low : UInt8) : UInt8 :=
  UInt8.ofNat (16 * hexValue (Char.ofUInt8 high) + hexValue (Char.ofUInt8 low))

/-- The bytes in front stand for the bytes behind: an escape for its digits, `+` for a space,
and any other byte for itself. -/
inductive StandsFor : List UInt8 → List UInt8 → Prop where
  | nil : StandsFor [] []
  | escape {high low : UInt8} {bytes decoded : List UInt8} : isHexByte high = true →
      isHexByte low = true → StandsFor bytes decoded →
      StandsFor (0x25 :: high :: low :: bytes) (digitsByte high low :: decoded)
  | plus {bytes decoded : List UInt8} : StandsFor bytes decoded →
      StandsFor (0x2B :: bytes) (0x20 :: decoded)
  | plain {byte : UInt8} {bytes decoded : List UInt8} : byte ≠ 0x25 → byte ≠ 0x2B →
      StandsFor bytes decoded → StandsFor (byte :: bytes) (byte :: decoded)

/-- The bytes begin with two digits. -/
def HexPair (bytes : List UInt8) : Prop :=
  ∃ high low rest, bytes = high :: low :: rest ∧ isHexByte high = true ∧ isHexByte low = true

/-- Some `%` is not followed by two digits. -/
def BadEscape (bytes : List UInt8) : Prop :=
  ∃ before rest, bytes = before ++ 0x25 :: rest ∧ ¬ HexPair rest

theorem hexNibble_eq : ∀ byte, hexNibble byte =
    if isHexByte byte then some (UInt8.ofNat (hexValue (Char.ofUInt8 byte))) else none :=
  forall_byte (by decide +kernel)

theorem digitsByte_eq {high low : UInt8} (first : isHexByte high = true)
    (second : isHexByte low = true) :
    UInt8.ofNat (hexValue (Char.ofUInt8 high)) <<< 4 |||
      UInt8.ofNat (hexValue (Char.ofUInt8 low)) = digitsByte high low := by
  have value : ∀ byte, isHexByte byte = true → hexValue (Char.ofUInt8 byte) < 16 :=
    forall_byte (by decide +kernel)
  have joined : ∀ high < 16, ∀ low < 16,
      UInt8.ofNat high <<< 4 ||| UInt8.ofNat low = UInt8.ofNat (16 * high + low) := by
    decide +kernel
  exact joined _ (value high first) _ (value low second)

theorem not_badEscape_nil : ¬ BadEscape [] := by
  rintro ⟨before, rest, same, _⟩
  exact List.append_ne_nil_of_right_ne_nil before (List.cons_ne_nil _ rest) same.symm

theorem badEscape_cons {byte : UInt8} {bytes : List UInt8} :
    BadEscape (byte :: bytes) ↔ (byte = 0x25 ∧ ¬ HexPair bytes) ∨ BadEscape bytes := by
  constructor
  · rintro ⟨before, rest, same, unpaired⟩
    cases before with
    | nil =>
        cases same
        exact .inl ⟨rfl, unpaired⟩
    | cons _ before =>
        cases same
        exact .inr ⟨before, rest, rfl, unpaired⟩
  · rintro (⟨rfl, unpaired⟩ | ⟨before, rest, rfl, unpaired⟩)
    · exact ⟨[], bytes, rfl, unpaired⟩
    · exact ⟨byte :: before, rest, rfl, unpaired⟩

/-- A byte that is no `%` makes no escape bad. -/
theorem badEscape_cons_other {byte : UInt8} {bytes : List UInt8} (other : byte ≠ 0x25) :
    BadEscape (byte :: bytes) ↔ BadEscape bytes := by
  rw [badEscape_cons]
  exact ⟨fun bad => bad.resolve_left fun here => other here.1, .inr⟩

theorem ne_percent_of_isHexByte {byte : UInt8} (digit : isHexByte byte = true) : byte ≠ 0x25 := by
  rintro rfl
  exact absurd digit (by decide)

theorem badEscape_escape {high low : UInt8} {bytes : List UInt8} (first : isHexByte high = true)
    (second : isHexByte low = true) :
    BadEscape (0x25 :: high :: low :: bytes) ↔ BadEscape bytes := by
  have paired : HexPair (high :: low :: bytes) := ⟨high, low, bytes, rfl, first, second⟩
  rw [badEscape_cons, badEscape_cons_other (ne_percent_of_isHexByte first),
    badEscape_cons_other (ne_percent_of_isHexByte second)]
  exact ⟨fun bad => bad.resolve_left fun here => here.2 paired, .inr⟩

theorem unescape_of_standsFor {bytes decoded : List UInt8} (stands : StandsFor bytes decoded) :
    unescape bytes = .ok decoded := by
  induction stands with
  | nil => rfl
  | @escape high low bytes decoded first second _ ih =>
      have firstDigit := (hexNibble_eq high).trans (if_pos first)
      have secondDigit := (hexNibble_eq low).trans (if_pos second)
      rw [unescape_pair firstDigit secondDigit, ih, digitsByte_eq first second]
      rfl
  | plus _ ih =>
      rw [unescape_plus, ih]
      rfl
  | plain percent plus _ ih =>
      rw [unescape_plain percent plus, ih]
      rfl

theorem isHexByte_of_hexNibble {byte value : UInt8} (digit : hexNibble byte = some value) :
    isHexByte byte = true := by
  rw [hexNibble_eq] at digit
  split at digit
  · assumption
  · cases digit

/-- The decoder stops at a bad escape, or the bytes stand for others. The induction is that of
the decoder. -/
theorem unescape_cases (bytes : List UInt8) :
    (BadEscape bytes ∧ ∃ message, unescape bytes = .error message) ∨
      ∃ decoded, StandsFor bytes decoded := by
  induction bytes using unescape.induct with
  | case1 => exact .inr ⟨[], .nil⟩
  | case2 high low bytes _ _ secondDigit firstDigit ih =>
      have first := isHexByte_of_hexNibble firstDigit
      have second := isHexByte_of_hexNibble secondDigit
      obtain ⟨bad, message, failed⟩ | ⟨decoded, stands⟩ := ih
      · refine .inl ⟨(badEscape_escape first second).mpr bad, message, ?_⟩
        rw [unescape_pair firstDigit secondDigit, failed]
        rfl
      · exact .inr ⟨_, .escape first second stands⟩
  | case3 high low bytes digits =>
      have unpaired : ¬ HexPair (high :: low :: bytes) := by
        rintro ⟨first, second, rest, same, firstDigit, secondDigit⟩
        cases same
        exact digits _ _ ((hexNibble_eq high).trans (if_pos firstDigit))
          ((hexNibble_eq low).trans (if_pos secondDigit))
      refine .inl ⟨badEscape_cons.mpr (.inl ⟨rfl, unpaired⟩), _, unescape_no_digits ?_⟩
      exact fun high low first second => digits high low first second
  | case4 bytes cut =>
      have short : bytes.length < 2 := by
        match bytes with
        | [] => exact Nat.zero_lt_two
        | [_] => exact Nat.one_lt_two
        | high :: low :: rest => exact absurd rfl (cut high low rest)
      have unpaired : ¬ HexPair bytes := by
        rintro ⟨high, low, rest, same, _⟩
        exact cut high low rest same
      exact .inl ⟨badEscape_cons.mpr (.inl ⟨rfl, unpaired⟩), _, unescape_truncated short⟩
  | case5 bytes percent ih =>
      obtain ⟨bad, message, failed⟩ | ⟨decoded, stands⟩ := ih
      · refine .inl ⟨(badEscape_cons_other percent).mpr bad, message, ?_⟩
        rw [unescape_plus, failed]
        rfl
      · exact .inr ⟨_, .plus stands⟩
  | case6 byte bytes percent plus ih =>
      obtain ⟨bad, message, failed⟩ | ⟨decoded, stands⟩ := ih
      · refine .inl ⟨(badEscape_cons_other percent).mpr bad, message, ?_⟩
        rw [unescape_plain percent plus, failed]
        rfl
      · exact .inr ⟨_, .plain percent plus stands⟩

theorem not_badEscape_of_standsFor {bytes decoded : List UInt8}
    (stands : StandsFor bytes decoded) : ¬ BadEscape bytes := by
  induction stands with
  | nil => exact not_badEscape_nil
  | escape first second _ ih => rwa [badEscape_escape first second]
  | plus _ ih => rwa [badEscape_cons_other (by decide)]
  | plain percent _ _ ih => rwa [badEscape_cons_other percent]

/-! ### The coding of texts -/

/-- The bytes of a text. -/
def utf8Bytes (text : String) : List UInt8 :=
  text.toByteArray.data.toList

theorem pctDecode_of_standsFor {input : String} {decoded : List UInt8}
    (stands : StandsFor (utf8Bytes input) decoded) :
    pctDecode input = match String.fromUTF8? ⟨decoded.toArray⟩ with
      | some text => .ok text
      | none => .error "join link percent-decoded bytes are not UTF-8" := by
  have looped : pctDecodeLoop input.toByteArray.data 0 #[] = .ok decoded.toArray := by
    rw [pctDecodeLoop_eq, List.drop_zero]
    refine (congrArg (Except.map _) (unescape_of_standsFor stands)).trans ?_
    simp [Except.map]
  rw [pctDecode, looped]
  rfl

theorem pctDecode_of_error {input message : String}
    (failed : unescape (utf8Bytes input) = .error message) : pctDecode input = .error message := by
  have looped : pctDecodeLoop input.toByteArray.data 0 #[] = .error message := by
    rw [pctDecodeLoop_eq, List.drop_zero]
    exact congrArg (Except.map _) failed
  rw [pctDecode, looped]
  rfl

/-- The promises of the percent coding of a text. -/
structure PercentCoded (input : String) : Prop where
  encoded : IsPercentEncoded (pctEncode input).toList
  roundTrip : pctDecode (pctEncode input) = .ok input
  inRange : pctDecodeRounds input.toByteArray.data (input.toByteArray.data.size + 1) 0 #[] =
    some (pctDecodeLoop input.toByteArray.data 0 #[])
  fails : (∃ message, pctDecode input = .error message) ↔
    BadEscape (utf8Bytes input) ∨
      ∃ decoded, StandsFor (utf8Bytes input) decoded ∧
        ¬ ByteArray.IsValidUTF8 ⟨decoded.toArray⟩

theorem percent_coding (input : String) : PercentCoded input where
  encoded := isPercentEncoded_pctEncode input
  roundTrip := pctDecode_pctEncode input
  inRange := pctDecodeRounds_eq #[] (Nat.lt_succ_self _)
  fails := by
    obtain ⟨bad, message, failed⟩ | ⟨decoded, stands⟩ := unescape_cases (utf8Bytes input)
    · exact iff_of_true ⟨message, pctDecode_of_error failed⟩ (.inl bad)
    · rw [pctDecode_of_standsFor stands]
      by_cases valid : ByteArray.IsValidUTF8 ⟨decoded.toArray⟩
      · have text : String.fromUTF8? ⟨decoded.toArray⟩ = some ⟨⟨decoded.toArray⟩, valid⟩ :=
          dif_pos valid
        rw [text]
        refine iff_of_false ?_ ?_
        · rintro ⟨_, failed⟩
          cases failed
        rintro (bad | ⟨other, others, invalid⟩)
        · exact not_badEscape_of_standsFor stands bad
        · cases (unescape_of_standsFor others).symm.trans (unescape_of_standsFor stands)
          exact invalid valid
      · have noText : String.fromUTF8? ⟨decoded.toArray⟩ = none := dif_neg valid
        rw [noText]
        exact iff_of_true ⟨_, rfl⟩ (.inr ⟨decoded, stands, valid⟩)

example : pctDecode "%C3%A9+100%25" = .ok "é 100%" := by decide +kernel
example : pctDecode "100%" = .error "truncated percent-encoding" := by decide +kernel

end Kaigi.Client
