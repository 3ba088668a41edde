import Kaigi.Text.Json

/-!
# The text of a JSON value

A value is written without any space between its parts, as the serializers of most
languages do by default. The reader takes every JSON text; it refuses an escape that is
half a character, and it keeps a number that is no integer as it is written.
-/

set_option autoImplicit false

namespace Kaigi.Text.Json

/-! ## Writing -/

def hexDigit (digit : Nat) : Char :=
  "0123456789abcdef".toList.getD digit '0'

def escape (character : Char) : List Char :=
  if character = '"' then ['\\', '"']
  else if character = '\\' then ['\\', '\\']
  else if character = '\n' then ['\\', 'n']
  else if character = '\r' then ['\\', 'r']
  else if character = '\t' then ['\\', 't']
  else if character = Char.ofNat 8 then ['\\', 'b']
  else if character = Char.ofNat 12 then ['\\', 'f']
  else if character.toNat < 0x20 then
    ['\\', 'u', '0', '0', hexDigit (character.toNat / 16), hexDigit (character.toNat % 16)]
  else [character]

def writeString (value : String) : List Char :=
  '"' :: (value.toList.flatMap escape ++ ['"'])

def writeInteger (value : Int) : List Char :=
  if value < 0 then '-' :: Nat.toDigits 10 value.natAbs else Nat.toDigits 10 value.natAbs

mutual

def write : Json → List Char
  | .null => ['n', 'u', 'l', 'l']
  | .bool true => ['t', 'r', 'u', 'e']
  | .bool false => ['f', 'a', 'l', 's', 'e']
  | .integer value => writeInteger value
  | .float literal => literal.toList
  | .string value => writeString value
  | .array [] => ['[', ']']
  | .array (item :: items) => '[' :: (write item ++ writeItems items)
  | .object [] => ['{', '}']
  | .object ((name, value) :: entries) =>
      '{' :: (writeString name ++ ':' :: (write value ++ writeEntries entries))

/-- The items after the first one, and the bracket. -/
def writeItems : List Json → List Char
  | [] => [']']
  | item :: items => ',' :: (write item ++ writeItems items)

/-- The entries after the first one, and the brace. -/
def writeEntries : List (String × Json) → List Char
  | [] => ['}']
  | (name, value) :: entries =>
      ',' :: (writeString name ++ ':' :: (write value ++ writeEntries entries))

end

def text (value : Json) : String :=
  String.ofList (write value)

/-! ## Reading -/

def isSpace (character : Char) : Bool :=
  character = ' ' || character = '\t' || character = '\n' || character = '\r'

def skipSpace (source : List Char) : List Char :=
  source.dropWhile isSpace

def hexValue (character : Char) : Option Nat :=
  if character.isDigit then some (character.toNat - '0'.toNat)
  else if 'a' ≤ character ∧ character ≤ 'f' then some (character.toNat - 'a'.toNat + 10)
  else if 'A' ≤ character ∧ character ≤ 'F' then some (character.toNat - 'A'.toNat + 10)
  else none

def hexUnit (first second third fourth : Char) : Option Nat := do
  let first ← hexValue first
  let second ← hexValue second
  let third ← hexValue third
  let fourth ← hexValue fourth
  return ((first * 16 + second) * 16 + third) * 16 + fourth

def unescape (character : Char) : Option Char :=
  if character = '"' ∨ character = '\\' ∨ character = '/' then some character
  else if character = 'n' then some '\n'
  else if character = 'r' then some '\r'
  else if character = 't' then some '\t'
  else if character = 'b' then some (Char.ofNat 8)
  else if character = 'f' then some (Char.ofNat 12)
  else none

/-- The character of a unit, and of the unit that is written before it. -/
inductive Unit16 where
  | half (high : Nat)
  | whole (character : Char)

def combine (high : Option Nat) (unit : Nat) : Option Unit16 :=
  match high with
  | none =>
      if 0xD800 ≤ unit ∧ unit < 0xDC00 then some (.half unit)
      else if 0xDC00 ≤ unit ∧ unit < 0xE000 then none
      else some (.whole (Char.ofNat unit))
  | some high =>
      if 0xDC00 ≤ unit ∧ unit < 0xE000 then
        some (.whole (Char.ofNat (0x10000 + (high - 0xD800) * 0x400 + (unit - 0xDC00))))
      else none

/-- The characters up to the closing mark, and what comes after it. The unit `high` is the
first half of a character. -/
def readString (high : Option Nat) : List Char → Option (List Char × List Char)
  | [] => none
  | character :: source =>
      if character = '\\' then
        match source with
        | [] => none
        | escape :: source =>
            if escape = 'u' then
              match source with
              | first :: second :: third :: fourth :: source =>
                  match (hexUnit first second third fourth).bind (combine high) with
                  | none => none
                  | some (.half high) => readString (some high) source
                  | some (.whole character) =>
                      (readString none source).map (Prod.map (character :: ·) id)
              | _ => none
            else if high.isSome then none
            else
              match unescape escape with
              | none => none
              | some character => (readString none source).map (Prod.map (character :: ·) id)
      else if high.isSome then none
      else if character = '"' then some ([], source)
      else if character.toNat < 0x20 then none
      else (readString none source).map (Prod.map (character :: ·) id)

/-- A part of a number that may be missing, and what comes after it. -/
def readFraction : List Char → Option (List Char × List Char)
  | '.' :: source =>
      let digits := source.takeWhile Char.isDigit
      if digits = [] then none else some ('.' :: digits, source.dropWhile Char.isDigit)
  | source => some ([], source)

def readExponent : List Char → Option (List Char × List Char)
  | [] => some ([], [])
  | mark :: source =>
      if mark = 'e' ∨ mark = 'E' then
        let sign := (source.take 1).filter fun character => character = '+' || character = '-'
        let source := source.drop sign.length
        let digits := source.takeWhile Char.isDigit
        if digits = [] then none
        else some (mark :: (sign ++ digits), source.dropWhile Char.isDigit)
      else some ([], mark :: source)

/-- A number after its sign. Negative zero is no integer. -/
def readUnsigned (negative : Bool) (source : List Char) : Option (Json × List Char) :=
  let digits := source.takeWhile Char.isDigit
  if digits = [] ∨ (digits.head? = some '0' ∧ digits ≠ ['0']) then none
  else do
    let (fraction, source) ← readFraction (source.dropWhile Char.isDigit)
    let (exponent, source) ← readExponent source
    if fraction = [] ∧ exponent = [] ∧ ¬(negative ∧ digits = ['0']) then
      let value : Int := Nat.ofDigitChars 10 digits 0
      return (.integer (if negative then -value else value), source)
    else
      let sign := if negative then ['-'] else []
      return (.float (String.ofList (sign ++ digits ++ fraction ++ exponent)), source)

def readNumber : List Char → Option (Json × List Char)
  | '-' :: source => readUnsigned true source
  | source => readUnsigned false source

/-- A word that stands for a value. -/
def readWord (word : List Char) (value : Json) (source : List Char) : Option (Json × List Char) :=
  if word.isPrefixOf source then some (value, source.drop word.length) else none

def readScalar (source : List Char) : Option (Json × List Char) :=
  (((readWord ['n', 'u', 'l', 'l'] .null source).or
        (readWord ['t', 'r', 'u', 'e'] (.bool true) source)).or
      (readWord ['f', 'a', 'l', 's', 'e'] (.bool false) source)).or
    (readNumber source)

/-- The source after a mark that has to come next. -/
def expect (mark : Char) (source : List Char) : Option (List Char) :=
  match skipSpace source with
  | [] => none
  | character :: source => if character = mark then some source else none

mutual

/-- A value, and what comes after it. Every call that takes fuel reads a character. -/
def readValue : Nat → List Char → Option (Json × List Char)
  | 0, _ => none
  | fuel + 1, source =>
      match skipSpace source with
      | [] => none
      | mark :: source =>
          if mark = '"' then
            (readString none source).map (Prod.map (fun value => .string (String.ofList value)) id)
          else if mark = '[' then
            match expect ']' source with
            | some source => some (.array [], source)
            | none => do
                let (item, source) ← readValue fuel source
                let (items, source) ← readItems fuel source
                return (.array (item :: items), source)
          else if mark = '{' then
            match expect '}' source with
            | some source => some (.object [], source)
            | none => do
                let (entry, source) ← readEntry fuel source
                let (entries, source) ← readEntries fuel source
                return (.object (entry :: entries), source)
          else readScalar (mark :: source)

/-- The items after the first one, up to the bracket. -/
def readItems : Nat → List Char → Option (List Json × List Char)
  | 0, _ => none
  | fuel + 1, source =>
      match expect ']' source with
      | some source => some ([], source)
      | none => do
          let source ← expect ',' source
          let (item, source) ← readValue fuel source
          let (items, source) ← readItems fuel source
          return (item :: items, source)

def readEntry : Nat → List Char → Option ((String × Json) × List Char)
  | 0, _ => none
  | fuel + 1, source => do
      let source ← expect '"' source
      let (name, source) ← readString none source
      let source ← expect ':' source
      let (value, source) ← readValue fuel source
      return ((String.ofList name, value), source)

/-- The entries after the first one, up to the brace. -/
def readEntries : Nat → List Char → Option (List (String × Json) × List Char)
  | 0, _ => none
  | fuel + 1, source =>
      match expect '}' source with
      | some source => some ([], source)
      | none => do
          let source ← expect ',' source
          let (entry, source) ← readEntry fuel source
          let (entries, source) ← readEntries fuel source
          return (entry :: entries, source)

end

/-- The value of a text. -/
def parse (text : String) : Option Json := do
  let (value, source) ← readValue text.toList.length text.toList
  if skipSpace source = [] then some value else none

end Kaigi.Text.Json
