import Kaigi.Text.SocketAddr
import Mathlib.Algebra.Ring.Nat

/-!
# Round trip of socket addresses

The text of an address is read back as the address, apart from the flow information of an
IPv6 address, which is not written; an address that was read has none.
-/

set_option autoImplicit false

namespace Kaigi.Text.Address

/-! ## Numbers -/

section Numbers

variable {radix number bound : Nat} {maxDigits : Option Nat} {zeroPrefix : Bool}
  {text rest : List Char}

theorem digitValue_digitChar {digit : Nat} (small : digit < 16) :
    digitValue digit.digitChar = digit :=
  (by decide : ∀ digit < 16, digitValue (Nat.digitChar digit) = digit) digit small

/-- The digits of a number, from those of its quotient. -/
theorem toDigits_induct (Holds : Nat → List Char → Prop) (one : 1 < radix)
    (last : ∀ digit < radix, Holds digit [digit.digitChar])
    (more : ∀ number digits, 0 < number → digits ≠ [] → Holds number digits →
      ∀ digit < radix, Holds (number * radix + digit) (digits ++ [digit.digitChar]))
    (number : Nat) : Holds number (Nat.toDigits radix number) := by
  induction number using Nat.strongRecOn with
  | ind number ih =>
      rw [Nat.toDigits_eq_if one]
      split
      · next small => exact last number small
      · next large =>
          have shorter : number / radix < number := Nat.div_lt_self (by omega) one
          have positive : 0 < number / radix := Nat.div_pos (Nat.not_lt.mp large) (by omega)
          have digits := more (number / radix) _ positive Nat.toDigits_ne_nil
            (ih (number / radix) shorter) (number % radix) (Nat.mod_lt number (by omega))
          rwa [Nat.div_add_mod'] at digits

theorem isDigitOf_of_mem (one : 1 < radix) (most : radix ≤ 16) :
    ∀ character ∈ Nat.toDigits radix number, isDigitOf radix character = true := by
  have digit : ∀ digit < radix, isDigitOf radix digit.digitChar = true := by
    intro digit small
    rw [isDigitOf, digitValue_digitChar (by omega)]
    exact decide_eq_true small
  refine toDigits_induct (fun _ digits => ∀ character ∈ digits, isDigitOf radix character = true)
    one ?_ ?_ number
  · intro last small
    exact List.forall_mem_singleton.mpr (digit last small)
  · intro _ digits _ _ all last small
    exact List.forall_mem_append.mpr ⟨all, List.forall_mem_singleton.mpr (digit last small)⟩

theorem numberOf_toDigits (one : 1 < radix) (most : radix ≤ 16) :
    numberOf radix (Nat.toDigits radix number) = number := by
  refine toDigits_induct (fun number digits => numberOf radix digits = number) one ?_ ?_ number
  · intro last small
    rw [numberOf, List.foldl_cons, List.foldl_nil, digitValue_digitChar (by omega)]
    omega
  · intro front digits _ _ same last small
    rw [numberOf, List.foldl_append, ← numberOf, same, List.foldl_cons, List.foldl_nil,
      digitValue_digitChar (by omega)]

/-- Only zero itself is written with a zero in front. -/
theorem head_toDigits (one : 1 < radix) (most : radix ≤ 16) (positive : 0 < number) :
    (Nat.toDigits radix number).head? ≠ some '0' := by
  have digit : ∀ digit < 16, 0 < digit → Nat.digitChar digit ≠ '0' := by decide
  refine toDigits_induct (fun number digits => 0 < number → digits.head? ≠ some '0') one ?_ ?_
    number positive
  · intro last small positive same
    exact digit last (by omega) positive (Option.some.inj same)
  · intro front digits positive full leading last small _
    rw [List.head?_append_of_ne_nil _ full]
    exact leading positive

/-- The text does not go on with a digit. -/
def Stops (radix : Nat) (rest : List Char) : Prop :=
  ∀ character ∈ rest.head?, isDigitOf radix character = false

theorem takeWhile_of_stops (stops : Stops radix rest) : rest.takeWhile (isDigitOf radix) = [] := by
  cases rest with
  | nil => rfl
  | cons character rest =>
      exact List.takeWhile_cons_of_neg (Bool.eq_false_iff.mp (stops character rfl))

theorem dropWhile_of_stops (stops : Stops radix rest) :
    rest.dropWhile (isDigitOf radix) = rest := by
  cases rest with
  | nil => rfl
  | cons character rest =>
      exact List.dropWhile_cons_of_neg (Bool.eq_false_iff.mp (stops character rfl))

theorem Stops.smaller {smaller : Nat} (stops : Stops radix rest) (less : smaller ≤ radix) :
    Stops smaller rest := by
  intro character first
  have large := of_decide_eq_false (stops character first)
  exact decide_eq_false (by omega)

theorem readNumber_of_stops (stops : Stops radix text) :
    readNumber radix bound maxDigits zeroPrefix text = none := by
  rw [readNumber, takeWhile_of_stops stops]
  exact if_pos (.inl rfl)

/-- A number is read back, digits being many enough for it and no other digit behind. -/
theorem readNumber_toDigits (one : 1 < radix) (most : radix ≤ 16) (small : number < bound)
    (short : ∀ most ∈ maxDigits, 0 < most ∧ number < radix ^ most) (stops : Stops radix rest) :
    readNumber radix bound maxDigits zeroPrefix (Nat.toDigits radix number ++ rest) =
      some (number, rest) := by
  have digits : ∀ character ∈ Nat.toDigits radix number, isDigitOf radix character = true :=
    isDigitOf_of_mem one most
  have taken : (Nat.toDigits radix number ++ rest).takeWhile (isDigitOf radix) =
      Nat.toDigits radix number := by
    rw [List.takeWhile_append_of_pos digits, takeWhile_of_stops stops, List.append_nil]
  have left : (Nat.toDigits radix number ++ rest).dropWhile (isDigitOf radix) = rest := by
    rw [List.dropWhile_append_of_pos digits, dropWhile_of_stops stops]
  rw [readNumber, taken, left, numberOf_toDigits one most]
  refine if_neg ?_
  rintro (none | ⟨most, given, long⟩ | ⟨_, zero, long⟩ | large)
  · exact Nat.toDigits_ne_nil none
  · obtain ⟨some, fits⟩ := short most given
    exact Nat.not_lt.mpr ((Nat.length_toDigits_le_iff one some).mpr fits) long
  · obtain rfl | positive := Nat.eq_zero_or_pos number
    · rw [Nat.toDigits_zero] at long
      exact Nat.lt_irrefl 1 long
    · exact head_toDigits one most positive zero
  · exact Nat.not_lt.mpr large small

end Numbers

/-! ## IPv4 addresses -/

section Ipv4

variable {rest : List Char}

theorem readOctet_decimal (octet : UInt8) (stops : Stops 10 rest) :
    readOctet (decimal octet.toNat ++ rest) = some (octet, rest) := by
  have small : octet.toNat < 256 := octet.toNat_lt
  have short : ∀ most ∈ some 3, 0 < most ∧ octet.toNat < 10 ^ most := by
    rintro most ⟨⟩
    exact ⟨by decide, Nat.lt_trans small (by decide)⟩
  rw [readOctet, decimal, readNumber_toDigits (by decide) (by decide) small short stops,
    Option.map_some]
  exact congrArg (fun octet => some (octet, rest)) UInt8.ofNat_toNat

theorem readOctet_of_stops (stops : Stops 10 rest) : readOctet rest = none := by
  rw [readOctet, readNumber_of_stops stops, Option.map_none]

theorem readSeparator_zero {Value : Type} (separator : Char)
    (inner : List Char → Option (Value × List Char)) (text : List Char) :
    readSeparator separator 0 inner text = inner text :=
  rfl

theorem readSeparator_cons {Value : Type} (separator : Char) {index : Nat} (later : 0 < index)
    (inner : List Char → Option (Value × List Char)) (text : List Char) :
    readSeparator separator index inner (separator :: text) = inner text := by
  rw [readSeparator, if_pos later, readGivenChar, if_pos rfl, Option.bind_some]

theorem Ipv4Addr.octets_eq (ip : Ipv4Addr) :
    ∃ first second third fourth, ip = ⟨#v[first, second, third, fourth]⟩ := by
  obtain ⟨⟨octets⟩, size⟩ := ip
  obtain ⟨first, second, third, fourth, rfl⟩ := List.length_eq_four.mp size
  exact ⟨first, second, third, fourth, rfl⟩

theorem Ipv4Addr.text_eq (first second third fourth : UInt8) :
    Ipv4Addr.text ⟨#v[first, second, third, fourth]⟩ =
      decimal first.toNat ++ '.' :: (decimal second.toNat ++ '.' :: (decimal third.toNat ++
        '.' :: decimal fourth.toNat)) := by
  rw [Ipv4Addr.text]
  simp [List.intercalate, List.intersperse]

theorem stops_dot (rest : List Char) : Stops 10 ('.' :: rest) := by
  rintro character ⟨⟩
  decide

theorem readIpv4Addr_text (ip : Ipv4Addr) (stops : Stops 10 rest) :
    readIpv4Addr (ip.text ++ rest) = some (ip, rest) := by
  obtain ⟨first, second, third, fourth, rfl⟩ := ip.octets_eq
  rw [Ipv4Addr.text_eq]
  simp only [List.append_assoc, List.cons_append, readIpv4Addr, readSeparator_zero,
    readSeparator_cons '.' (by decide : 0 < 1), readSeparator_cons '.' (by decide : 0 < 2),
    readSeparator_cons '.' (by decide : 0 < 3), readOctet_decimal _ (stops_dot _),
    readOctet_decimal _ stops, Option.bind_eq_bind, Option.bind_some]
  rfl

/-- Digits without a dot behind them are no address. -/
theorem readIpv4Addr_none {text : List Char}
    (undotted : (text.dropWhile (isDigitOf 10)).head? ≠ some '.') : readIpv4Addr text = none := by
  rw [readIpv4Addr, readSeparator_zero, readOctet, readNumber]
  split
  · rfl
  · simp only [Option.map_some, Option.bind_eq_bind, Option.bind_some]
    cases shape : text.dropWhile (isDigitOf 10) with
    | nil => rfl
    | cons character text =>
        have other : character ≠ '.' := by
          rintro rfl
          exact undotted (congrArg List.head? shape)
        rw [readSeparator, if_pos Nat.one_pos, readGivenChar, if_neg other, Option.bind_none,
          Option.bind_none]

end Ipv4

/-! ## Groups of an IPv6 address -/

section Groups

variable {rest : List Char}

/-- The text goes on with neither a digit of a group nor the dot of an IPv4 address. -/
def Follows (rest : List Char) : Prop :=
  ∀ character ∈ rest.head?, isDigitOf 16 character = false ∧ character ≠ '.'

/-- Behind the text no further group can be read. -/
structure Ends (rest : List Char) : Prop where
  follows : Follows rest
  separated : ∀ more, rest = ':' :: more → Stops 16 more

theorem Follows.stops (follows : Follows rest) : Stops 16 rest :=
  fun character first => (follows character first).1

theorem Follows.stops_ten (follows : Follows rest) : Stops 10 rest :=
  follows.stops.smaller (by decide)

theorem follows_separator (rest : List Char) : Follows (':' :: rest) := by
  rintro character ⟨⟩
  decide

theorem Ends.of_ne {character : Char} (digit : isDigitOf 16 character = false)
    (dot : character ≠ '.') (separator : character ≠ ':') (rest : List Char) :
    Ends (character :: rest) := by
  constructor
  · rintro first ⟨⟩
    exact ⟨digit, dot⟩
  · rintro more ⟨⟩
    exact absurd rfl separator

theorem ends_compressed (rest : List Char) : Ends (':' :: ':' :: rest) := by
  constructor
  · exact follows_separator _
  · rintro more ⟨⟩
    exact (follows_separator rest).stops

/-- The groups from this index on, with the separators in front of them. -/
def groupsFrom : Nat → List UInt16 → List Char
  | _, [] => []
  | index, segment :: segments =>
      (if 0 < index then [':'] else []) ++
        (hexadecimal segment.toNat ++ groupsFrom (index + 1) segments)

theorem groupsText_cons (index : Nat) (segment : UInt16) (segments : List UInt16) :
    groupsText (segment :: segments) =
      hexadecimal segment.toNat ++ groupsFrom (index + 1) segments := by
  induction segments generalizing index segment with
  | nil => rw [groupsText, groupsFrom]; simp [List.intercalate]
  | cons next segments ih =>
      rw [groupsFrom, if_pos index.succ_pos, ← ih (index + 1) next]
      simp [groupsText, List.intercalate]

theorem groupsText_eq (segments : List UInt16) : groupsText segments = groupsFrom 0 segments := by
  cases segments with
  | nil => rfl
  | cons segment segments => rw [groupsText_cons 0, groupsFrom, if_neg (by decide), List.nil_append]

theorem follows_groupsFrom {index : Nat} (later : 0 < index) (segments : List UInt16)
    (follows : Follows rest) : Follows (groupsFrom index segments ++ rest) := by
  cases segments with
  | nil => exact follows
  | cons segment segments =>
      rw [groupsFrom, if_pos later]
      exact follows_separator _

/-- The digits of a group are no octet of an IPv4 address. -/
theorem undotted_digits {digits : List Char}
    (all : ∀ character ∈ digits, isDigitOf 16 character = true) (follows : Follows rest) :
    ((digits ++ rest).dropWhile (isDigitOf 10)).head? ≠ some '.' := by
  induction digits with
  | nil =>
      rw [List.nil_append, dropWhile_of_stops (follows.stops_ten)]
      exact fun dot => (follows '.' dot).2 rfl
  | cons digit digits ih =>
      rw [List.cons_append]
      by_cases octet : isDigitOf 10 digit = true
      · rw [List.dropWhile_cons_of_pos octet]
        exact ih fun character member => all character (List.mem_cons_of_mem digit member)
      · rw [List.dropWhile_cons_of_neg octet]
        rintro ⟨⟩
        exact absurd (all '.' List.mem_cons_self) (by decide)

theorem readIpv4Addr_hexadecimal (number : Nat) (follows : Follows rest) :
    readIpv4Addr (hexadecimal number ++ rest) = none :=
  readIpv4Addr_none (undotted_digits (isDigitOf_of_mem (by decide) (by decide)) follows)

theorem readGroup_hexadecimal (segment : UInt16) (stops : Stops 16 rest) :
    readNumber 16 65536 (some 4) true (hexadecimal segment.toNat ++ rest) =
      some (segment.toNat, rest) := by
  have small : segment.toNat < 65536 := segment.toNat_lt
  have short : ∀ most ∈ some 4, 0 < most ∧ segment.toNat < 16 ^ most := by
    rintro most ⟨⟩
    exact ⟨by decide, small⟩
  exact readNumber_toDigits (by decide) (by decide) small short stops

theorem readSeparator_groupsFrom {Value : Type} (index : Nat) (segment : UInt16)
    (segments : List UInt16) (inner : List Char → Option (Value × List Char)) :
    readSeparator ':' index inner (groupsFrom index (segment :: segments) ++ rest) =
      inner (hexadecimal segment.toNat ++ (groupsFrom (index + 1) segments ++ rest)) := by
  rw [groupsFrom, List.append_assoc, List.append_assoc]
  by_cases later : 0 < index
  · rw [if_pos later]
    exact readSeparator_cons ':' later inner _
  · rw [if_neg later, readSeparator, if_neg later, List.nil_append]

/-- Where the text ends there is nothing to separate. -/
theorem readSeparator_ends {Value : Type} {inner : List Char → Option (Value × List Char)}
    (none : ∀ text, Stops 16 text → inner text = none) (ends : Ends rest) (index : Nat) :
    readSeparator ':' index inner rest = .none := by
  unfold readSeparator
  split
  · cases rest with
    | nil => rfl
    | cons character rest =>
        by_cases separator : character = ':'
        · subst separator
          rw [readGivenChar, if_pos rfl, Option.bind_some]
          exact none rest (ends.separated rest rfl)
        · rw [readGivenChar, if_neg separator, Option.bind_none]
  · exact none rest ends.follows.stops

theorem readGroups_ends (index remaining : Nat) (ends : Ends rest) :
    readGroups index remaining rest = ([], false, rest) := by
  cases remaining with
  | zero => rfl
  | succ remaining =>
      have ipv4 : ∀ text, Stops 16 text → readIpv4Addr text = none := by
        intro text stops
        rw [readIpv4Addr, readSeparator_zero, readOctet_of_stops (stops.smaller (by decide))]
        rfl
      rw [readGroups, readSeparator_ends ipv4 ends, ite_self,
        readSeparator_ends (fun text => readNumber_of_stops) ends]

/-- The groups are read back, if there is room for them and no further one behind. -/
theorem readGroups_groupsFrom (segments : List UInt16) (index remaining : Nat)
    (room : segments.length ≤ remaining) (follows : Follows rest)
    (ends : segments.length < remaining → Ends rest) :
    readGroups index remaining (groupsFrom index segments ++ rest) = (segments, false, rest) := by
  induction segments generalizing index remaining with
  | nil =>
      cases remaining with
      | zero => rfl
      | succ remaining => exact readGroups_ends index _ (ends remaining.succ_pos)
  | cons segment segments ih =>
      cases remaining with
      | zero => exact absurd room (Nat.not_succ_le_zero _)
      | succ remaining =>
          have next := follows_groupsFrom index.succ_pos segments follows
          rw [readGroups, readSeparator_groupsFrom, readSeparator_groupsFrom,
            readIpv4Addr_hexadecimal _ next, ite_self, readGroup_hexadecimal _ next.stops]
          dsimp only
          rw [ih (index + 1) remaining (Nat.le_of_succ_le_succ room)
            (fun less => ends (Nat.succ_lt_succ less)), UInt16.ofNat_toNat]

end Groups

/-! ## The longest run of zeros -/

section Spans

variable {done : List UInt16} {longest current : Span}

/-- The span is a run of zeros in the groups. -/
def Span.Zeros (span : Span) (segments : List UInt16) : Prop :=
  ∃ left right, left.length = span.start ∧
    segments = left ++ (List.replicate span.len 0 ++ right)

/-- The span is the run of zeros at the end of the groups; an empty one has no start. -/
def Span.ZerosAtEnd (span : Span) (segments : List UInt16) : Prop :=
  ∃ left, (0 < span.len → left.length = span.start) ∧
    segments = left ++ List.replicate span.len 0

theorem Span.Zeros.append (zeros : longest.Zeros done) (segment : UInt16) :
    longest.Zeros (done ++ [segment]) := by
  obtain ⟨left, right, start, rfl⟩ := zeros
  exact ⟨left, right ++ [segment], start, by simp only [List.append_assoc]⟩

/-- One round keeps both spans runs of zeros. -/
theorem spanStep_zeros (whole : longest.Zeros done) (last : current.ZerosAtEnd done)
    (segment : UInt16) :
    (spanStep done.length longest current segment).1.Zeros (done ++ [segment]) ∧
      (spanStep done.length longest current segment).2.ZerosAtEnd (done ++ [segment]) := by
  rw [spanStep]
  by_cases zero : segment = 0
  · subst zero
    rw [if_pos rfl]
    obtain ⟨left, start, shape⟩ := last
    have grown : done ++ [0] = left ++ List.replicate (current.len + 1) 0 := by
      rw [shape, List.replicate_succ', List.append_assoc]
    have first : left.length = if current.len = 0 then done.length else current.start := by
      split
      · next empty => rw [shape, empty, List.replicate_zero, List.append_nil]
      · next some => exact start (Nat.pos_of_ne_zero some)
    refine ⟨?_, left, fun _ => first, grown⟩
    dsimp only
    split
    · refine ⟨left, [], first, ?_⟩
      rw [List.append_nil]
      exact grown
    · exact whole.append 0
  · rw [if_neg zero]
    exact ⟨whole.append segment, done ++ [segment], fun some => absurd some (Nat.lt_irrefl 0),
      (List.append_nil _).symm⟩

theorem spanFrom_zeros (done segments : List UInt16) (whole : longest.Zeros done)
    (last : current.ZerosAtEnd done) :
    (spanFrom done.length longest current segments).Zeros (done ++ segments) := by
  induction segments generalizing done longest current with
  | nil =>
      rw [List.append_nil]
      exact whole
  | cons segment segments ih =>
      have step := spanStep_zeros whole last segment
      have next := ih (done ++ [segment]) step.1 step.2
      rw [List.length_append, List.length_singleton, List.append_assoc] at next
      exact next

theorem zeros_of_segments (segments : List UInt16) :
    (spanFrom 0 ⟨0, 0⟩ ⟨0, 0⟩ segments).Zeros segments :=
  spanFrom_zeros [] segments ⟨[], [], rfl, rfl⟩ ⟨[], fun _ => rfl, rfl⟩

end Spans

/-! ## IPv6 addresses -/

section Ipv6

variable {rest : List Char} {ip : Ipv6Addr} {ipv4 : Ipv4Addr}

theorem segment_of_octets (segment : UInt16) :
    (segment >>> 8).toUInt8.toUInt16 <<< 8 ||| segment.toUInt8.toUInt16 = segment := by
  have small : segment.toNat < 65536 := segment.toNat_lt
  have high : (segment.toNat >>> 8 % 2 ^ 8) <<< 8 % 2 ^ 16 = 2 ^ 8 * (segment.toNat / 2 ^ 8) := by
    rw [Nat.shiftRight_eq_div_pow, Nat.shiftLeft_eq]
    omega
  have shift : UInt16.toNat 8 % 16 = 8 := rfl
  apply UInt16.toNat_inj.mp
  simp only [UInt16.toNat_or, UInt16.toNat_shiftLeft, UInt8.toNat_toUInt16, UInt16.toNat_toUInt8,
    UInt16.toNat_shiftRight, shift]
  rw [high, ← Nat.two_pow_add_eq_or_of_lt (Nat.mod_lt _ (by decide)), Nat.div_add_mod]

theorem segments_of_mapped (mapped : ip.toIpv4Mapped = some ipv4) :
    ip.segments.toList = [0, 0, 0, 0, 0, 0xffff] ++ ipv4.groups := by
  unfold Ipv6Addr.toIpv4Mapped at mapped
  split at mapped
  · next high low shape =>
      obtain rfl := Option.some.inj mapped
      have groups : Ipv4Addr.groups
          ⟨#v[(high >>> 8).toUInt8, high.toUInt8, (low >>> 8).toUInt8, low.toUInt8]⟩ =
          [(high >>> 8).toUInt8.toUInt16 <<< 8 ||| high.toUInt8.toUInt16,
            (low >>> 8).toUInt8.toUInt16 <<< 8 ||| low.toUInt8.toUInt16] := rfl
      rw [shape, groups, segment_of_octets, segment_of_octets]
      rfl
  · cases mapped

/-- Behind the `::` stand the groups at the end. -/
theorem readIpv6Groups_compressed (left : List UInt16) {right : List UInt16} {ended : Bool}
    {text : List Char} (short : left.length < 8)
    (behind : readGroups 0 (8 - (left.length + 1)) text = (right, ended, rest)) :
    readIpv6Groups (groupsText left ++ ':' :: ':' :: text) =
      some (left ++ List.replicate (8 - left.length - right.length) 0 ++ right, rest) := by
  have front := readGroups_groupsFrom left 0 8 (Nat.le_of_lt short) (follows_separator _)
    fun _ => ends_compressed text
  rw [readIpv6Groups, groupsText_eq, front]
  dsimp only
  rw [if_neg (Nat.ne_of_lt short), if_neg (by decide)]
  simp only [readGivenChar, if_true, Option.bind_eq_bind, Option.bind_some, behind]
  rfl

theorem readGroups_mapped (stops : Stops 10 rest) (ipv4 : Ipv4Addr) :
    readGroups 0 7 (hexadecimal 0xffff ++ ':' :: (ipv4.text ++ rest)) =
      (0xffff :: ipv4.groups, true, rest) := by
  have octets : readGroups 1 6 (':' :: (ipv4.text ++ rest)) = (ipv4.groups, true, rest) := by
    rw [readGroups, if_pos (by decide), readSeparator_cons ':' Nat.one_pos,
      readIpv4Addr_text ipv4 stops]
  have group := readGroup_hexadecimal 0xffff (follows_separator (ipv4.text ++ rest)).stops
  rw [readGroups, readSeparator_zero, readIpv4Addr_hexadecimal _ (follows_separator _), ite_self,
    readSeparator_zero]
  dsimp only
  rw [show hexadecimal 0xffff = hexadecimal (0xffff : UInt16).toNat from rfl, group]
  dsimp only
  rw [octets]
  rfl

theorem readIpv6Groups_text (ends : Ends rest) (ip : Ipv6Addr) :
    readIpv6Groups (ip.text ++ rest) = some (ip.segments.toList, rest) := by
  have eight : ip.segments.toList.length = 8 := ip.segments.length_toList
  unfold Ipv6Addr.text
  cases mapped : ip.toIpv4Mapped with
  | some ipv4 =>
      have stops : Stops 10 rest := ends.follows.stops_ten
      have read := readIpv6Groups_compressed [] (by decide) (readGroups_mapped stops ipv4)
      dsimp only
      rw [List.append_assoc]
      refine Eq.trans read ?_
      rw [segments_of_mapped mapped]
      rfl
  | none =>
      obtain ⟨left, right, start, shape⟩ := zeros_of_segments ip.segments.toList
      dsimp only
      generalize spanFrom 0 ⟨0, 0⟩ ⟨0, 0⟩ ip.segments.toList = zeroes at start shape ⊢
      split
      · next long =>
          rw [shape, List.length_append, List.length_append, List.length_replicate] at eight
          have front : ip.segments.toList.take zeroes.start = left := by
            rw [shape, ← start, List.take_left]
          have back : ip.segments.toList.drop (zeroes.start + zeroes.len) = right := by
            rw [shape, ← start, ← List.drop_drop, List.drop_left,
              List.drop_left' List.length_replicate]
          have behind := readGroups_groupsFrom right 0 (8 - (left.length + 1)) (by omega)
            ends.follows fun _ => ends
          have read := readIpv6Groups_compressed left (by omega) behind
          have zeros : 8 - left.length - right.length = zeroes.len := by omega
          rw [zeros, List.append_assoc, ← shape, ← groupsText_eq] at read
          rw [front, back, List.append_assoc, List.append_assoc]
          exact read
      · have read := readGroups_groupsFrom ip.segments.toList 0 8 (Nat.le_of_eq eight) ends.follows
          fun _ => ends
        rw [readIpv6Groups, groupsText_eq, read]
        exact if_pos eight

theorem readIpv6Addr_text (ends : Ends rest) (ip : Ipv6Addr) :
    readIpv6Addr (ip.text ++ rest) = some (ip, rest) := by
  have eight : ip.segments.toList.length = 8 := ip.segments.length_toList
  rw [readIpv6Addr, readIpv6Groups_text ends]
  exact dif_pos eight

end Ipv6

/-! ## Socket addresses -/

section Socket

variable {rest text : List Char}

theorem readNumber_decimal {number bound : Nat} (small : number < bound)
    (stops : Stops 10 rest) :
    readNumber 10 bound none true (decimal number ++ rest) = some (number, rest) :=
  readNumber_toDigits (by decide) (by decide) small (fun _ given => nomatch given) stops

theorem readPort_decimal (port : UInt16) :
    readPort (':' :: decimal port.toNat) = some (port, []) := by
  have stops : Stops 10 [] := fun _ first => nomatch first
  have read := readNumber_decimal port.toNat_lt stops
  rw [List.append_nil] at read
  rw [readPort, readGivenChar, if_pos rfl]
  simp only [Option.bind_eq_bind, Option.bind_some]
  rw [show 65536 = 2 ^ 16 from rfl, read]
  exact congrArg (fun port => some (port, [])) UInt16.ofNat_toNat

theorem readScopeId_decimal (scopeId : UInt32) (stops : Stops 10 rest) :
    readScopeId ('%' :: (decimal scopeId.toNat ++ rest)) = some (scopeId, rest) := by
  have read := readNumber_decimal scopeId.toNat_lt stops
  rw [readScopeId, readGivenChar, if_pos rfl]
  simp only [Option.bind_eq_bind, Option.bind_some]
  rw [show 4294967296 = 2 ^ 32 from rfl, read]
  exact congrArg (fun scopeId => some (scopeId, rest)) UInt32.ofNat_toNat

theorem readSocketAddrV4_text (address : SocketAddrV4) :
    readSocketAddrV4 address.text = some (.v4 address, []) := by
  have ip := readIpv4Addr_text address.ip
    (follows_separator (decimal address.port.toNat)).stops_ten
  rw [readSocketAddrV4, SocketAddrV4.text, ip]
  simp only [Option.bind_eq_bind, Option.bind_some, readPort_decimal]
  rfl

/-- The brackets keep the port apart from the groups, with and without a scope. -/
theorem readSocketAddrV6_text (address : SocketAddrV6) :
    readSocketAddrV6 address.text = some (.v6 { address with flowinfo := 0 }, []) := by
  have closing : Ends (']' :: ':' :: decimal address.port.toNat) :=
    Ends.of_ne (by decide) (by decide) (by decide) _
  unfold SocketAddrV6.text
  split
  · next zero =>
      have shape : '[' :: address.ip.text ++ "]:".toList ++ decimal address.port.toNat =
          '[' :: (address.ip.text ++ ']' :: ':' :: decimal address.port.toNat) := by
        simp
      have scopeId : readScopeId (']' :: ':' :: decimal address.port.toNat) = none := rfl
      rw [shape, readSocketAddrV6]
      simp only [readGivenChar, if_true, Option.bind_eq_bind, Option.bind_some,
        readIpv6Addr_text closing, scopeId, Option.getD_none, readPort_decimal, ← zero]
      rfl
  · have percent : Ends ('%' :: (decimal address.scopeId.toNat ++
        ']' :: ':' :: decimal address.port.toNat)) :=
      Ends.of_ne (by decide) (by decide) (by decide) _
    have shape : '[' :: address.ip.text ++ '%' :: decimal address.scopeId.toNat ++ "]:".toList ++
        decimal address.port.toNat = '[' :: (address.ip.text ++ '%' ::
          (decimal address.scopeId.toNat ++ ']' :: ':' :: decimal address.port.toNat)) := by
      simp
    rw [shape, readSocketAddrV6]
    simp only [readGivenChar, if_true, Option.bind_eq_bind, Option.bind_some,
      readIpv6Addr_text percent, readScopeId_decimal _ closing.follows.stops_ten,
      Option.getD_some, readPort_decimal]
    rfl

theorem readSocketAddrV4_bracket (text : List Char) : readSocketAddrV4 ('[' :: text) = none := by
  have bracket : Stops 10 ('[' :: text) :=
    (Ends.of_ne (by decide) (by decide) (by decide) text).follows.stops_ten
  rw [readSocketAddrV4, readIpv4Addr, readSeparator_zero, readOctet_of_stops bracket]
  rfl

/-- The flow information of an address is not written. -/
def SocketAddr.unflowed : SocketAddr → SocketAddr
  | .v4 address => .v4 address
  | .v6 address => .v6 { address with flowinfo := 0 }

theorem parse_display (address : SocketAddr) :
    SocketAddr.parse address.display = some address.unflowed := by
  rw [SocketAddr.parse, SocketAddr.display, String.toList_ofList]
  cases address with
  | v4 address =>
      rw [SocketAddr.text, readSocketAddrV4_text]
      rfl
  | v6 address =>
      obtain ⟨text, bracket⟩ : ∃ text, address.text = '[' :: text := by
        unfold SocketAddrV6.text
        split <;> exact ⟨_, rfl⟩
      rw [SocketAddr.text, readSocketAddrV6_text, bracket, readSocketAddrV4_bracket]
      rfl

theorem readSocketAddrV4_unflowed {address : SocketAddr}
    (read : readSocketAddrV4 text = some (address, rest)) : address.unflowed = address := by
  simp only [readSocketAddrV4, Option.bind_eq_bind, Option.bind_eq_some_iff] at read
  obtain ⟨_, _, _, _, read⟩ := read
  cases read
  rfl

theorem readSocketAddrV6_unflowed {address : SocketAddr}
    (read : readSocketAddrV6 text = some (address, rest)) : address.unflowed = address := by
  simp only [readSocketAddrV6, Option.bind_eq_bind, Option.bind_eq_some_iff] at read
  obtain ⟨_, _, _, _, _, _, _, _, read⟩ := read
  cases read
  rfl

/-- An address that was read is read again from its own text. -/
theorem parse_display_of_parse {text : String} {address : SocketAddr}
    (parsed : SocketAddr.parse text = some address) :
    SocketAddr.parse address.display = some address := by
  have same : address.unflowed = address := by
    simp only [SocketAddr.parse, Option.bind_eq_bind, Option.bind_eq_some_iff] at parsed
    obtain ⟨⟨read, rest⟩, found, whole⟩ := parsed
    dsimp only at whole
    split at whole
    · cases whole
      obtain found | ⟨_, found⟩ := Option.or_eq_some_iff.mp found
      · exact readSocketAddrV4_unflowed found
      · exact readSocketAddrV6_unflowed found
    · cases whole
  rw [parse_display, same]

end Socket

end Kaigi.Text.Address
