import Mathlib.Data.Nat.Notation
import Mathlib.Data.List.Basic

/-!
# Socket addresses

The texts of IP addresses and of socket addresses, as `std::net` writes and reads them. An
IPv6 address is written in groups of hexadecimal digits, its longest run of zero groups as
`::`, and one that carries an IPv4 address with the octets of that address.
-/

set_option autoImplicit false

namespace Kaigi.Text.Address

structure Ipv4Addr where
  octets : Vector UInt8 4
  deriving DecidableEq

structure Ipv6Addr where
  segments : Vector UInt16 8
  deriving DecidableEq

structure SocketAddrV4 where
  ip : Ipv4Addr
  port : UInt16
  deriving DecidableEq

structure SocketAddrV6 where
  ip : Ipv6Addr
  port : UInt16
  flowinfo : UInt32
  scopeId : UInt32
  deriving DecidableEq

inductive SocketAddr where
  | v4 (address : SocketAddrV4)
  | v6 (address : SocketAddrV6)
  deriving DecidableEq

/-! ## Writing -/

def decimal (number : Nat) : List Char :=
  Nat.toDigits 10 number

def hexadecimal (number : Nat) : List Char :=
  Nat.toDigits 16 number

def Ipv4Addr.text (ip : Ipv4Addr) : List Char :=
  ['.'].intercalate (ip.octets.toList.map fun octet => decimal octet.toNat)

/-- `Ipv6Addr::to_ipv4_mapped`. -/
def Ipv6Addr.toIpv4Mapped (ip : Ipv6Addr) : Option Ipv4Addr :=
  match ip.segments.toList with
  | [0, 0, 0, 0, 0, 0xffff, high, low] =>
      some ⟨#v[(high >>> 8).toUInt8, high.toUInt8, (low >>> 8).toUInt8, low.toUInt8]⟩
  | _ => none

structure Span where
  start : Nat
  len : Nat

/-- One round of the search for the longest run of zeros: the index, the longest run and the
run that ends here. -/
def spanStep (index : Nat) (longest current : Span) (segment : UInt16) : Span × Span :=
  if segment = 0 then
    let current : Span :=
      ⟨if current.len = 0 then index else current.start, current.len + 1⟩
    (if longest.len < current.len then current else longest, current)
  else (longest, ⟨0, 0⟩)

def spanFrom : Nat → Span → Span → List UInt16 → Span
  | _, longest, _, [] => longest
  | index, longest, current, segment :: segments =>
      let (longest, current) := spanStep index longest current segment
      spanFrom (index + 1) longest current segments

def groupsText (segments : List UInt16) : List Char :=
  [':'].intercalate (segments.map fun segment => hexadecimal segment.toNat)

def Ipv6Addr.text (ip : Ipv6Addr) : List Char :=
  match ip.toIpv4Mapped with
  | some ipv4 => "::ffff:".toList ++ ipv4.text
  | none =>
      let segments := ip.segments.toList
      let zeroes := spanFrom 0 ⟨0, 0⟩ ⟨0, 0⟩ segments
      if 1 < zeroes.len then
        groupsText (segments.take zeroes.start) ++ "::".toList ++
          groupsText (segments.drop (zeroes.start + zeroes.len))
      else groupsText segments

def SocketAddrV4.text (address : SocketAddrV4) : List Char :=
  address.ip.text ++ ':' :: decimal address.port.toNat

def SocketAddrV6.text (address : SocketAddrV6) : List Char :=
  if address.scopeId = 0 then
    '[' :: address.ip.text ++ "]:".toList ++ decimal address.port.toNat
  else
    '[' :: address.ip.text ++ '%' :: decimal address.scopeId.toNat ++ "]:".toList ++
      decimal address.port.toNat

def SocketAddr.text : SocketAddr → List Char
  | .v4 address => address.text
  | .v6 address => address.text

/-! ## Reading -/

/-- `char::to_digit`, as a number that is not below the radix for other characters. -/
def digitValue (character : Char) : Nat :=
  if '0' ≤ character && character ≤ '9' then character.toNat - '0'.toNat
  else if 'a' ≤ character && character ≤ 'z' then character.toNat - 'a'.toNat + 10
  else if 'A' ≤ character && character ≤ 'Z' then character.toNat - 'A'.toNat + 10
  else 36

def isDigitOf (radix : Nat) (character : Char) : Bool :=
  digitValue character < radix

def numberOf (radix : Nat) (digits : List Char) : Nat :=
  digits.foldl (fun number digit => number * radix + digitValue digit) 0

/-- All digits are read before their number and their value are looked at. As every reader, it
gives what it has read and what is left. -/
def readNumber (radix bound : Nat) (maxDigits : Option Nat) (allowZeroPrefix : Bool)
    (text : List Char) : Option (Nat × List Char) :=
  let digits := text.takeWhile (isDigitOf radix)
  if digits = [] ∨ (∃ most ∈ maxDigits, most < digits.length) ∨
      (allowZeroPrefix = false ∧ digits.head? = some '0' ∧ 1 < digits.length) ∨
      bound ≤ numberOf radix digits then none
  else some (numberOf radix digits, text.dropWhile (isDigitOf radix))

def readGivenChar (target : Char) : List Char → Option (List Char)
  | [] => none
  | character :: text => if character = target then some text else none

/-- Only the first item has no separator in front of it. -/
def readSeparator {Value : Type} (separator : Char) (index : Nat)
    (inner : List Char → Option (Value × List Char)) (text : List Char) :
    Option (Value × List Char) :=
  if 0 < index then (readGivenChar separator text).bind inner else inner text

def readOctet (text : List Char) : Option (UInt8 × List Char) :=
  (readNumber 10 256 (some 3) false text).map fun (octet, text) => (UInt8.ofNat octet, text)

def readIpv4Addr (text : List Char) : Option (Ipv4Addr × List Char) := do
  let (first, text) ← readSeparator '.' 0 readOctet text
  let (second, text) ← readSeparator '.' 1 readOctet text
  let (third, text) ← readSeparator '.' 2 readOctet text
  let (fourth, text) ← readSeparator '.' 3 readOctet text
  return (⟨#v[first, second, third, fourth]⟩, text)

/-- The two groups of an address at the end. -/
def Ipv4Addr.groups (ip : Ipv4Addr) : List UInt16 :=
  [ip.octets[0].toUInt16 <<< 8 ||| ip.octets[1].toUInt16,
    ip.octets[2].toUInt16 <<< 8 ||| ip.octets[3].toUInt16]

/-- Up to `remaining` groups, whether the last two are an IPv4 address, and what is left. -/
def readGroups (index : Nat) : Nat → List Char → List UInt16 × Bool × List Char
  | 0, text => ([], false, text)
  | remaining + 1, text =>
      match if 0 < remaining then readSeparator ':' index readIpv4Addr text else none with
      | some (ipv4, text) => (ipv4.groups, true, text)
      | none =>
          match readSeparator ':' index (readNumber 16 65536 (some 4) true) text with
          | none => ([], false, text)
          | some (group, text) =>
              let (groups, ipv4, text) := readGroups (index + 1) remaining text
              (UInt16.ofNat group :: groups, ipv4, text)

/-- The groups in front, and behind a `::` the groups at the end. -/
def readIpv6Groups (text : List Char) : Option (List UInt16 × List Char) :=
  let (head, ipv4, text) := readGroups 0 8 text
  if head.length = 8 then some (head, text)
  else if ipv4 then none
  else do
    let text ← readGivenChar ':' text
    let text ← readGivenChar ':' text
    let (tail, _, text) := readGroups 0 (8 - (head.length + 1)) text
    return (head ++ List.replicate (8 - head.length - tail.length) 0 ++ tail, text)

def readIpv6Addr (text : List Char) : Option (Ipv6Addr × List Char) := do
  let (groups, text) ← readIpv6Groups text
  if whole : groups.length = 8 then return (⟨⟨groups.toArray, whole⟩⟩, text)
  else none

def readPort (text : List Char) : Option (UInt16 × List Char) := do
  let text ← readGivenChar ':' text
  let (port, text) ← readNumber 10 65536 none true text
  return (UInt16.ofNat port, text)

def readScopeId (text : List Char) : Option (UInt32 × List Char) := do
  let text ← readGivenChar '%' text
  let (scopeId, text) ← readNumber 10 4294967296 none true text
  return (UInt32.ofNat scopeId, text)

def readSocketAddrV4 (text : List Char) : Option (SocketAddr × List Char) := do
  let (ip, text) ← readIpv4Addr text
  let (port, text) ← readPort text
  return (.v4 ⟨ip, port⟩, text)

def readSocketAddrV6 (text : List Char) : Option (SocketAddr × List Char) := do
  let text ← readGivenChar '[' text
  let (ip, text) ← readIpv6Addr text
  let (scopeId, text) := (readScopeId text).getD (0, text)
  let text ← readGivenChar ']' text
  let (port, text) ← readPort text
  return (.v6 ⟨ip, port, 0, scopeId⟩, text)

def SocketAddr.display (address : SocketAddr) : String :=
  String.ofList address.text

/-- `SocketAddr::from_str`: nothing may be left. -/
def SocketAddr.parse (text : String) : Option SocketAddr := do
  let (address, rest) ← (readSocketAddrV4 text.toList).or (readSocketAddrV6 text.toList)
  if rest = [] then return address
  else none

end Kaigi.Text.Address
