import Kaigi.Text.JsonText
import Mathlib.Tactic.IntervalCases

/-!
# What is written is read back

The reader finds the value that a text was written from, as long as its numbers are
integers. A number ends where no digit, fraction or exponent follows, so the reader is
followed through a text whose rest ends it.
-/

set_option autoImplicit false

namespace Kaigi.Text.Json

/-! ## Strings -/

theorem hexValue_hexDigit {digit : Nat} (bound : digit < 16) :
    hexValue (hexDigit digit) = some digit := by
  interval_cases digit <;> rfl

theorem hexUnit_low {unit : Nat} (bound : unit < 0x20) :
    hexUnit '0' '0' (hexDigit (unit / 16)) (hexDigit (unit % 16)) = some unit := by
  have high : hexValue (hexDigit (unit / 16)) = some (unit / 16) := hexValue_hexDigit (by omega)
  have low : hexValue (hexDigit (unit % 16)) = some (unit % 16) := hexValue_hexDigit (by omega)
  have zero : hexValue '0' = some 0 := rfl
  have sum : unit / 16 * 16 + unit % 16 = unit := by omega
  simp [hexUnit, high, low, zero, sum]

theorem combine_low {unit : Nat} (bound : unit < 0x20) :
    combine none unit = some (.whole (Char.ofNat unit)) := by
  have first : ¬(0xD800 ≤ unit ∧ unit < 0xDC00) := by omega
  have second : ¬(0xDC00 ≤ unit ∧ unit < 0xE000) := by omega
  simp [combine, first, second]

theorem readString_mark (source : List Char) :
    readString none ('"' :: source) = some ([], source) := by
  rw [readString.eq_def]
  simp

theorem readString_escaped {mark character : Char} (source : List Char) (named : mark ≠ 'u')
    (means : unescape mark = some character) :
    readString none ('\\' :: mark :: source) =
      (readString none source).map (Prod.map (character :: ·) id) := by
  rw [readString.eq_def]
  simp [named, means]

theorem readString_low {character : Char} (source : List Char) (bound : character.toNat < 0x20) :
    readString none ('\\' :: 'u' :: '0' :: '0' :: hexDigit (character.toNat / 16) ::
        hexDigit (character.toNat % 16) :: source) =
      (readString none source).map (Prod.map (character :: ·) id) := by
  rw [readString.eq_def]
  simp [hexUnit_low bound, combine_low bound]

theorem readString_plain {character : Char} (source : List Char) (unmarked : character ≠ '"')
    (unescaped : character ≠ '\\') (printed : ¬character.toNat < 0x20) :
    readString none (character :: source) =
      (readString none source).map (Prod.map (character :: ·) id) := by
  rw [readString.eq_def]
  simp [unmarked, unescaped, printed]

theorem readString_escape (character : Char) (source : List Char) :
    readString none (escape character ++ source) =
      (readString none source).map (Prod.map (character :: ·) id) := by
  unfold escape
  split_ifs with mark slash newline carriage tab backspace feed control
  · subst mark
    exact readString_escaped source (by decide) rfl
  · subst slash
    exact readString_escaped source (by decide) rfl
  · subst newline
    exact readString_escaped source (by decide) rfl
  · subst carriage
    exact readString_escaped source (by decide) rfl
  · subst tab
    exact readString_escaped source (by decide) rfl
  · subst backspace
    exact readString_escaped source (by decide) rfl
  · subst feed
    exact readString_escaped source (by decide) rfl
  · exact readString_low source control
  · exact readString_plain source mark slash control

theorem readString_flatMap (value source : List Char) :
    readString none (value.flatMap escape ++ '"' :: source) = some (value, source) := by
  induction value with
  | nil => exact readString_mark source
  | cons character value ih =>
      rw [List.flatMap_cons, List.append_assoc, readString_escape, ih]
      rfl

/-! ## Numbers -/

/-- Nothing follows that would make a number longer. -/
def Ends (source : List Char) : Prop :=
  ∀ character ∈ source.head?, character = ',' ∨ character = ']' ∨ character = '}'

theorem digits_head {number : Nat} (positive : 0 < number) :
    (Nat.toDigits 10 number).head? ≠ some '0' := by
  induction number using Nat.strongRecOn with
  | ind number ih =>
      by_cases small : number < 10
      · interval_cases number <;> simp [Nat.toDigits_of_lt_base, Nat.digitChar]
      · have shorter : number / 10 < number := by omega
        have more := ih (number / 10) shorter (by omega)
        obtain ⟨first, others, digits⟩ :=
          List.exists_cons_of_ne_nil (Nat.toDigits_ne_nil (n := number / 10) (b := 10))
        rw [Nat.toDigits_of_base_le (by decide) (by omega), digits]
        rwa [digits] at more

theorem readFraction_ends {source : List Char} (ends : Ends source) :
    readFraction source = some ([], source) := by
  unfold readFraction
  split
  · obtain mark | mark | mark := ends _ rfl <;> simp at mark
  · rfl

theorem readExponent_ends {source : List Char} (ends : Ends source) :
    readExponent source = some ([], source) := by
  cases source with
  | nil => rfl
  | cons mark source =>
      have plain : ¬(mark = 'e' ∨ mark = 'E') := by
        obtain rfl | rfl | rfl := ends mark rfl <;> decide
      simp [readExponent, plain]

theorem Ends.digits {source : List Char} (ends : Ends source) :
    source.takeWhile Char.isDigit = [] ∧ source.dropWhile Char.isDigit = source := by
  cases source with
  | nil => exact ⟨rfl, rfl⟩
  | cons mark source =>
      have plain : mark.isDigit = false := by
        obtain rfl | rfl | rfl := ends mark rfl <;> decide
      simp [plain]

/-- The digits of a number are read as the number; a negative one is not zero. -/
theorem readUnsigned_toDigits (negative : Bool) (number : Nat) {source : List Char}
    (ends : Ends source) (sign : negative = true → 0 < number) :
    readUnsigned negative (Nat.toDigits 10 number ++ source) =
      some (.integer (if negative then -(number : Int) else number), source) := by
  have digits : ∀ character ∈ Nat.toDigits 10 number, character.isDigit = true :=
    fun _ member => Nat.isDigit_of_mem_toDigits (by decide) (by decide) member
  have taken : (Nat.toDigits 10 number ++ source).takeWhile Char.isDigit =
      Nat.toDigits 10 number := by
    rw [List.takeWhile_append_of_pos digits, ends.digits.1, List.append_nil]
  have left : (Nat.toDigits 10 number ++ source).dropWhile Char.isDigit = source := by
    rw [List.dropWhile_append_of_pos digits, ends.digits.2]
  have wellFormed : ¬(Nat.toDigits 10 number = [] ∨
      ((Nat.toDigits 10 number).head? = some '0' ∧ Nat.toDigits 10 number ≠ ['0'])) := by
    rintro (none | ⟨leading, longer⟩)
    · exact Nat.toDigits_ne_nil none
    · cases number with
      | zero => exact longer (Nat.toDigits_zero 10)
      | succ number => exact digits_head number.succ_pos leading
  have whole : ¬(negative = true ∧ Nat.toDigits 10 number = ['0']) := by
    rintro ⟨negative, zero⟩
    exact digits_head (sign negative) (by rw [zero]; rfl)
  simp only [readUnsigned, taken, left, if_neg wellFormed, readFraction_ends ends,
    readExponent_ends ends, Option.bind_eq_bind, Option.bind_some, true_and, not_false_eq_true,
    whole, Nat.ofDigitChars_ten_toDigits]
  rfl

theorem readNumber_digits {source : List Char} {first : Char} (digit : first.isDigit = true) :
    readNumber (first :: source) = readUnsigned false (first :: source) := by
  unfold readNumber
  split
  · next same =>
      cases same
      exact absurd digit (by decide)
  · rfl

theorem toDigits_head (number : Nat) :
    ∃ first others, Nat.toDigits 10 number = first :: others ∧ first.isDigit = true := by
  obtain ⟨first, others, digits⟩ :=
    List.exists_cons_of_ne_nil (Nat.toDigits_ne_nil (n := number) (b := 10))
  have member : first ∈ Nat.toDigits 10 number := digits ▸ List.mem_cons_self
  exact ⟨first, others, digits, Nat.isDigit_of_mem_toDigits (by decide) (by decide) member⟩

theorem readNumber_writeInteger (value : Int) {source : List Char} (ends : Ends source) :
    readNumber (writeInteger value ++ source) = some (.integer value, source) := by
  by_cases negative : value < 0
  · have read := readUnsigned_toDigits true value.natAbs ends
      (fun _ => Int.natAbs_pos.mpr negative.ne)
    have same : -(value.natAbs : Int) = value := by omega
    rw [writeInteger, if_pos negative]
    rw [if_pos rfl, same] at read
    exact read
  · have read := readUnsigned_toDigits false value.natAbs ends
      (fun impossible => Bool.noConfusion impossible)
    have same : (value.natAbs : Int) = value := by omega
    rw [if_neg Bool.false_ne_true, same] at read
    rw [writeInteger, if_neg negative]
    obtain ⟨first, others, digits, digit⟩ := toDigits_head value.natAbs
    rw [digits] at read ⊢
    exact (readNumber_digits digit).trans read

/-! ## Values -/

mutual

/-- Every number of the value is an integer. -/
def Integral : Json → Prop
  | .null | .bool _ | .integer _ | .string _ => True
  | .float _ => False
  | .array items => IntegralItems items
  | .object entries => IntegralEntries entries

def IntegralItems : List Json → Prop
  | [] => True
  | item :: items => Integral item ∧ IntegralItems items

def IntegralEntries : List (String × Json) → Prop
  | [] => True
  | (_, value) :: entries => Integral value ∧ IntegralEntries entries

end

attribute [simp] Integral IntegralItems IntegralEntries

theorem integralItems_iff (items : List Json) :
    IntegralItems items ↔ ∀ item ∈ items, Integral item := by
  induction items with
  | nil => simp
  | cons item items ih => simp [ih]

theorem integralEntries_append (front back : List (String × Json)) :
    IntegralEntries (front ++ back) ↔
      IntegralEntries front ∧ IntegralEntries back := by
  induction front with
  | nil => simp
  | cons entry front ih => simp [ih, and_assoc]

/-- The mark that a value begins with. -/
def IsMark (mark : Char) : Prop :=
  mark = '"' ∨ mark = '[' ∨ mark = '\x7b' ∨ mark = 'n' ∨ mark = 't' ∨ mark = 'f' ∨ mark = '-' ∨
    mark.isDigit = true

theorem write_head {value : Json} (integral : Integral value) :
    ∃ mark others, write value = mark :: others ∧ IsMark mark := by
  cases value with
  | null => exact ⟨_, _, rfl, by simp [IsMark]⟩
  | bool flag => cases flag <;> exact ⟨_, _, rfl, by simp [IsMark]⟩
  | integer number =>
      obtain ⟨first, others, digits, digit⟩ := toDigits_head number.natAbs
      simp only [write, writeInteger]
      split_ifs
      · exact ⟨_, _, rfl, by simp [IsMark]⟩
      · exact ⟨_, _, digits, by simp [IsMark, digit]⟩
  | float literal => exact integral.elim
  | string value => exact ⟨_, _, rfl, by simp [IsMark]⟩
  | array items => cases items <;> exact ⟨_, _, rfl, by simp [IsMark]⟩
  | object entries => cases entries <;> exact ⟨_, _, rfl, by simp [IsMark]⟩

theorem digit_plain {mark : Char} (digit : mark.isDigit = true) : isSpace mark = false := by
  refine Bool.eq_false_iff.mpr fun space => ?_
  simp only [isSpace, Bool.or_eq_true, decide_eq_true_eq] at space
  obtain ((rfl | rfl) | rfl) | rfl := space <;> exact absurd digit (by decide)

theorem IsMark.plain {mark : Char} (first : IsMark mark) :
    isSpace mark = false ∧ mark ≠ ']' ∧ mark ≠ '\x7d' := by
  obtain rfl | rfl | rfl | rfl | rfl | rfl | rfl | digit := first
  all_goals first
    | decide
    | skip
  refine ⟨digit_plain digit, ?_, ?_⟩
  · rintro rfl
    exact absurd digit (by decide)
  · rintro rfl
    exact absurd digit (by decide)

theorem skipSpace_mark {mark : Char} (source : List Char) (plain : isSpace mark = false) :
    skipSpace (mark :: source) = mark :: source := by
  simp [skipSpace, plain]

@[simp] theorem expect_self {mark : Char} (source : List Char) (plain : isSpace mark = false) :
    expect mark (mark :: source) = some source := by
  simp [expect, skipSpace_mark source plain]

theorem expect_other {mark first : Char} (source : List Char) (plain : isSpace first = false)
    (other : first ≠ mark) : expect mark (first :: source) = none := by
  simp [expect, skipSpace_mark source plain, other]

theorem expect_write {value : Json} (integral : Integral value) (source : List Char) :
    expect ']' (write value ++ source) = none := by
  obtain ⟨mark, others, written, first⟩ := write_head integral
  rw [written]
  exact expect_other _ first.plain.1 first.plain.2.1

theorem readValue_mark {fuel : Nat} {mark : Char} (source : List Char)
    (plain : isSpace mark = false) (string : mark ≠ '"') (array : mark ≠ '[')
    (object : mark ≠ '\x7b') :
    readValue (fuel + 1) (mark :: source) = readScalar (mark :: source) := by
  simp [readValue, skipSpace_mark source plain, string, array, object]

theorem readWord_other {word : List Char} {first mark : Char} (value : Json)
    (source : List Char) (other : first ≠ mark) :
    readWord (first :: word) value (mark :: source) = none := by
  simp [readWord, List.isPrefixOf, other]

theorem readScalar_number {mark : Char} (source : List Char)
    (first : mark = '-' ∨ mark.isDigit = true) :
    readScalar (mark :: source) = readNumber (mark :: source) := by
  have other : ∀ letter, letter.isDigit = false → letter ≠ '-' → letter ≠ mark := by
    rintro letter plain sign rfl
    obtain same | digit := first
    · exact sign same
    · exact Bool.noConfusion (plain.symm.trans digit)
  rw [readScalar, readWord_other _ _ (other 'n' (by decide) (by decide)),
    readWord_other _ _ (other 't' (by decide) (by decide)),
    readWord_other _ _ (other 'f' (by decide) (by decide))]
  rfl

theorem readScalar_writeInteger (value : Int) {source : List Char} (ends : Ends source) :
    readScalar (writeInteger value ++ source) = some (.integer value, source) := by
  have read := readNumber_writeInteger value ends
  unfold writeInteger at read ⊢
  split_ifs at read ⊢ with negative
  · exact (readScalar_number _ (.inl rfl)).trans read
  · obtain ⟨first, others, digits, digit⟩ := toDigits_head value.natAbs
    rw [digits] at read ⊢
    exact (readScalar_number _ (.inr digit)).trans read

theorem writeInteger_head (value : Int) :
    ∃ mark others, writeInteger value = mark :: others ∧ (mark = '-' ∨ mark.isDigit = true) := by
  unfold writeInteger
  split_ifs with negative
  · exact ⟨_, _, rfl, .inl rfl⟩
  · obtain ⟨first, others, digits, digit⟩ := toDigits_head value.natAbs
    exact ⟨first, others, digits, .inr digit⟩

theorem readValue_integer (fuel : Nat) (value : Int) {source : List Char} (ends : Ends source) :
    readValue (fuel + 1) (writeInteger value ++ source) = some (.integer value, source) := by
  have read := readScalar_writeInteger value ends
  obtain ⟨mark, others, written, first⟩ := writeInteger_head value
  have plain : isSpace mark = false ∧ mark ≠ '"' ∧ mark ≠ '[' ∧ mark ≠ '\x7b' := by
    obtain rfl | digit := first
    · decide
    · refine ⟨digit_plain digit, ?_, ?_, ?_⟩ <;> rintro rfl <;> exact absurd digit (by decide)
  rw [written] at read ⊢
  exact (readValue_mark _ plain.1 plain.2.1 plain.2.2.1 plain.2.2.2).trans read

theorem readValue_string (fuel : Nat) (value : String) (source : List Char) :
    readValue (fuel + 1) (writeString value ++ source) = some (.string value, source) := by
  have read := readString_flatMap value.toList source
  simp only [writeString, List.cons_append, List.append_assoc, List.nil_append, readValue,
    skipSpace_mark _ (by decide : isSpace '"' = false), if_pos, read, Option.map_some,
    Prod.map, String.ofList_toList, id]

theorem writeEntries_ends (entries : List (String × Json)) (source : List Char) :
    Ends (writeEntries entries ++ source) := by
  cases entries <;> simp [writeEntries, Ends]

theorem writeItems_ends (items : List Json) (source : List Char) :
    Ends (writeItems items ++ source) := by
  cases items <;> simp [writeItems, Ends]

theorem readValue_noItems (fuel : Nat) (source : List Char) :
    readValue (fuel + 1) ('[' :: ']' :: source) = some (.array [], source) := by
  have mark : '[' ≠ '"' := by decide
  simp [readValue, skipSpace_mark _ (by decide : isSpace '[' = false), mark,
    expect_self source (by decide : isSpace ']' = false)]

theorem readItems_end (fuel : Nat) (source : List Char) :
    readItems (fuel + 1) (']' :: source) = some ([], source) := by
  simp [readItems, expect_self source (by decide : isSpace ']' = false)]

theorem readValue_noEntries (fuel : Nat) (source : List Char) :
    readValue (fuel + 1) ('\x7b' :: '\x7d' :: source) = some (.object [], source) := by
  have mark : '\x7b' ≠ '"' ∧ '\x7b' ≠ '[' := by decide
  simp [readValue, skipSpace_mark _ (by decide : isSpace '\x7b' = false), mark,
    expect_self source (by decide : isSpace '\x7d' = false)]

theorem readEntries_end (fuel : Nat) (source : List Char) :
    readEntries (fuel + 1) ('\x7d' :: source) = some ([], source) := by
  simp [readEntries, expect_self source (by decide : isSpace '\x7d' = false)]

theorem expect_writeString (name : String) (source : List Char) :
    expect '\x7d' (writeString name ++ source) = none :=
  expect_other _ (by decide) (by decide)

theorem readValue_array {fuel : Nat} {item : Json} {items : List Json}
    {source rest final : List Char} (more : expect ']' source = none)
    (first : readValue fuel source = some (item, rest))
    (others : readItems fuel rest = some (items, final)) :
    readValue (fuel + 1) ('[' :: source) = some (.array (item :: items), final) := by
  have mark : '[' ≠ '"' := by decide
  simp [readValue, skipSpace_mark source (by decide : isSpace '[' = false), mark, more, first,
    others]

theorem readItems_more {fuel : Nat} {item : Json} {items : List Json}
    {source rest final : List Char} (first : readValue fuel source = some (item, rest))
    (others : readItems fuel rest = some (items, final)) :
    readItems (fuel + 1) (',' :: source) = some (item :: items, final) := by
  have more : expect ']' (',' :: source) = none := expect_other source (by decide) (by decide)
  have comma : expect ',' (',' :: source) = some source := expect_self source (by decide)
  simp [readItems, more, comma, first, others]

theorem readEntry_write {fuel : Nat} (name : String) {value : Json} {source : List Char}
    (read : readValue fuel (write value ++ source) = some (value, source)) :
    readEntry (fuel + 1) (writeString name ++ ':' :: (write value ++ source)) =
      some ((name, value), source) := by
  have mark := expect_self (name.toList.flatMap escape ++ '"' :: ':' :: (write value ++ source))
    (by decide : isSpace '"' = false)
  have colon := expect_self (write value ++ source) (by decide : isSpace ':' = false)
  simp [readEntry, writeString, mark, readString_flatMap, colon, read]

theorem readValue_object {fuel : Nat} {entry : String × Json} {entries : List (String × Json)}
    {source rest final : List Char} (more : expect '\x7d' source = none)
    (first : readEntry fuel source = some (entry, rest))
    (others : readEntries fuel rest = some (entries, final)) :
    readValue (fuel + 1) ('\x7b' :: source) = some (.object (entry :: entries), final) := by
  have mark : '\x7b' ≠ '"' ∧ '\x7b' ≠ '[' := by decide
  simp [readValue, skipSpace_mark source (by decide : isSpace '\x7b' = false), mark, more, first,
    others]

theorem readEntries_more {fuel : Nat} {entry : String × Json} {entries : List (String × Json)}
    {source rest final : List Char} (first : readEntry fuel source = some (entry, rest))
    (others : readEntries fuel rest = some (entries, final)) :
    readEntries (fuel + 1) (',' :: source) = some (entry :: entries, final) := by
  have more : expect '\x7d' (',' :: source) = none := expect_other source (by decide) (by decide)
  have comma : expect ',' (',' :: source) = some source := expect_self source (by decide)
  simp [readEntries, more, comma, first, others]

mutual

/-- The reader stops after the value, with fuel for each character of it. -/
theorem readValue_write {value : Json} (fuel : Nat) (source : List Char)
    (integral : Integral value) (enough : (write value).length ≤ fuel) (ends : Ends source) :
    readValue fuel (write value ++ source) = some (value, source) := by
  cases fuel with
  | zero =>
      obtain ⟨mark, others, written, _⟩ := write_head integral
      simp [written] at enough
  | succ fuel =>
      cases value with
      | null => exact readValue_mark _ (by decide) (by decide) (by decide) (by decide)
      | bool flag =>
          cases flag <;> exact readValue_mark _ (by decide) (by decide) (by decide) (by decide)
      | integer number => exact readValue_integer fuel number ends
      | float literal => exact integral.elim
      | string value => exact readValue_string fuel value source
      | array items =>
          cases items with
          | nil => exact readValue_noItems fuel source
          | cons item items =>
              simp only [write, List.length_cons, List.length_append] at enough
              have first := readValue_write fuel _ integral.1 (by omega)
                (writeItems_ends items source)
              have others := readItems_write fuel source integral.2 (by omega)
              simp only [write, List.cons_append, List.append_assoc]
              exact readValue_array (expect_write integral.1 _) first others
      | object entries =>
          cases entries with
          | nil => exact readValue_noEntries fuel source
          | cons entry entries =>
              simp only [write, List.length_cons, List.length_append] at enough
              cases fuel with
              | zero => omega
              | succ fuel =>
                  have read := readValue_write fuel _ integral.1 (by omega)
                    (writeEntries_ends entries source)
                  have others := readEntries_write (fuel + 1) source integral.2 (by omega)
                  simp only [write, List.cons_append, List.append_assoc]
                  exact readValue_object (expect_writeString _ _) (readEntry_write entry.1 read)
                    others

theorem readItems_write {items : List Json} (fuel : Nat) (source : List Char)
    (integral : IntegralItems items) (enough : (writeItems items).length ≤ fuel) :
    readItems fuel (writeItems items ++ source) = some (items, source) := by
  cases fuel with
  | zero => cases items <;> simp [writeItems] at enough
  | succ fuel =>
      cases items with
      | nil => exact readItems_end fuel source
      | cons item items =>
          simp only [writeItems, List.length_cons, List.length_append] at enough
          have first := readValue_write fuel _ integral.1 (by omega)
            (writeItems_ends items source)
          have others := readItems_write fuel source integral.2 (by omega)
          simp only [writeItems, List.cons_append, List.append_assoc]
          exact readItems_more first others

theorem readEntries_write {entries : List (String × Json)} (fuel : Nat) (source : List Char)
    (integral : IntegralEntries entries) (enough : (writeEntries entries).length ≤ fuel) :
    readEntries fuel (writeEntries entries ++ source) = some (entries, source) := by
  cases fuel with
  | zero => cases entries <;> simp [writeEntries] at enough
  | succ fuel =>
      cases entries with
      | nil => exact readEntries_end fuel source
      | cons entry entries =>
          simp only [writeEntries, List.length_cons, List.length_append] at enough
          cases fuel with
          | zero => omega
          | succ fuel =>
              have read := readValue_write fuel _ integral.1 (by omega)
                (writeEntries_ends entries source)
              have others := readEntries_write (fuel + 1) source integral.2 (by omega)
              simp only [writeEntries, List.cons_append, List.append_assoc]
              exact readEntries_more (readEntry_write entry.1 read) others

end

/-- What is written is read back. -/
theorem parse_text {value : Json} (integral : Integral value) :
    parse (text value) = some value := by
  have none : Ends [] := nofun
  have written : (text value).toList = write value := String.toList_ofList
  have read : readValue (write value).length (write value) = some (value, []) := by
    simpa only [List.append_nil] using
      readValue_write (write value).length [] integral (Nat.le_refl _) none
  rw [parse, written, read]
  rfl

end Kaigi.Text.Json
