import SensorGateway.Bytes
import SensorGateway.Digit

/-!
Network endpoints: an address of the Internet Protocol in either version, and
a port. An endpoint has one text, in which the longest run of zero groups of a
version 6 address is left out.
-/

namespace SensorGateway

inductive IpAddress where
  | v4 (a b c d : UInt8)
  | v6 (groups : Vector UInt16 8)
deriving DecidableEq

structure Endpoint where
  ip : IpAddress
  port : UInt16
  /-- The zone in which a version 6 address has its meaning, if not 0. It says
  where to send and is no part of who is there. -/
  zone : UInt32 := 0
deriving DecidableEq

namespace IpAddress

/-- The address as it stands in a packet. -/
def bytes : IpAddress → Bytes
  | v4 a b c d => [a, b, c, d]
  | v6 groups => groups.toList.flatMap Word.bytes

end IpAddress

namespace Endpoint

/-- The address followed by the port. -/
def bytes (endpoint : Endpoint) : Bytes :=
  endpoint.ip.bytes ++ Word.bytes endpoint.port

end Endpoint

namespace IpAddress

/-! ### Writing -/

def decimal (value : Nat) : String := Nat.repr value

def hexadecimal (group : UInt16) : String :=
  String.ofList (Nat.toDigits 16 group.toNat)

def v4Text (a b c d : UInt8) : String :=
  ".".intercalate ([a, b, c, d].map fun octet => decimal octet.toNat)

def groupsText (groups : List UInt16) : String :=
  ":".intercalate (groups.map hexadecimal)

/-- The number of zeros at the beginning of a list. -/
def leadingZeros (groups : List UInt16) : Nat :=
  (groups.takeWhile (· == 0)).length

/-- Where the longest run of zeros starts and how long it is; of two longest
runs the first. `start` is the position of the head of the list. -/
def longestZeros (start : Nat) : List UInt16 → Nat × Nat
  | [] => (start, 0)
  | groups@(_ :: rest) =>
      let here := leadingZeros groups
      let later := longestZeros (start + 1) rest
      if here ≥ later.2 then (start, here) else later

/-- Two or more zero groups in a row are left out once. -/
def v6Text (groups : List UInt16) : String :=
  match groups with
  | [0, 0, 0, 0, 0, 0xFFFF, high, low] =>
      match Word.bytes high, Word.bytes low with
      | [a, b], [c, d] => "::ffff:" ++ v4Text a b c d
      | _, _ => groupsText groups
  | _ =>
      let (start, length) := longestZeros 0 groups
      if length > 1 then
        groupsText (groups.take start) ++ "::" ++ groupsText (groups.drop (start + length))
      else groupsText groups

end IpAddress

namespace Endpoint

def text (endpoint : Endpoint) : String :=
  let port := IpAddress.decimal endpoint.port.toNat
  match endpoint.ip with
  | .v4 a b c d => IpAddress.v4Text a b c d ++ ":" ++ port
  | .v6 groups =>
      let zone :=
        if endpoint.zone = 0 then "" else "%" ++ IpAddress.decimal endpoint.zone.toNat
      "[" ++ IpAddress.v6Text groups.toList ++ zone ++ "]:" ++ port

end Endpoint

namespace IpAddress

/-! ### Reading -/

/-- A number of at most `room` digits. -/
def number? (base room : Nat) (text : List Char) : Option Nat :=
  if text.isEmpty || text.length > room then none else Digit.numeral? base text

/-- A decimal number below `limit`, with any number of zeros in front. -/
def numberBelow? (limit : Nat) (text : List Char) : Option Nat := do
  let value ← number? 10 text.length text
  if value < limit then return value else none

def octet? (text : List Char) : Option UInt8 := do
  let value ← number? 10 3 text
  if value < 256 && (text.length == 1 || text.head? != some '0') then
    return UInt8.ofNat value
  else none

def v4? (text : List Char) : Option IpAddress :=
  match (text.splitOn '.').map octet? with
  | [some a, some b, some c, some d] => some (.v4 a b c d)
  | _ => none

def group? (text : List Char) : Option UInt16 :=
  (number? 16 4 text).map UInt16.ofNat

/-- The end of a version 6 address may be a whole version 4 address, which
counts as two groups. -/
def lastGroups? (text : List Char) : Option (List UInt16) :=
  match v4? text with
  | some (.v4 a b c d) => some [Word.join a b, Word.join c d]
  | _ => (group? text).map ([·])

/-- Groups with colons between them, of which there may be none. -/
def groups? (readLast : List Char → Option (List UInt16)) (text : List Char) :
    Option (List UInt16) :=
  if text.isEmpty then some []
  else do
    let parts := text.splitOn ':'
    let first ← parts.dropLast.mapM group?
    let last ← readLast (parts.getLastD [])
    return first ++ last

/-- Splits a text where two colons meet. -/
def splitGap : List Char → Option (List Char × List Char)
  | ':' :: ':' :: rest => some ([], rest)
  | c :: rest => (splitGap rest).map fun (before, after) => (c :: before, after)
  | [] => none

def ofGroups? (groups : List UInt16) : Option IpAddress :=
  if h : groups.length = 8 then some (.v6 ⟨groups.toArray, by simpa using h⟩) else none

/-- At least one group is left out where two colons meet. -/
def v6? (text : List Char) : Option IpAddress :=
  match splitGap text with
  | none => (groups? lastGroups? text).bind ofGroups?
  | some (before, after) => do
      let first ← groups? (fun text => (group? text).map ([·])) before
      let last ← groups? lastGroups? after
      if first.length + last.length < 8 then
        ofGroups? (first ++ List.replicate (8 - first.length - last.length) 0 ++ last)
      else none

end IpAddress

namespace Endpoint

def port? (text : List Char) : Option UInt16 :=
  (IpAddress.numberBelow? UInt16.size text).map UInt16.ofNat

/-- What follows the address within the brackets: nothing, or a zone. -/
def zone? : List Char → Option UInt32
  | [] => some 0
  | _ :: text => (IpAddress.numberBelow? UInt32.size text).map UInt32.ofNat

/-- Reads `a.b.c.d:port`, `[groups]:port` or `[groups%zone]:port`. -/
def parse? (text : String) : Option Endpoint :=
  match text.toList with
  | '[' :: rest => do
      let inside := rest.takeWhile (· != ']')
      let groups := inside.takeWhile (· != '%')
      match rest.drop inside.length with
      | ']' :: ':' :: port => do
          let ip ← IpAddress.v6? groups
          let port ← port? port
          let zone ← zone? (inside.drop groups.length)
          return { ip, port, zone }
      | _ => none
  | chars =>
      match chars.dropWhile (· != ':') with
      | ':' :: port => do
          let ip ← IpAddress.v4? (chars.takeWhile (· != ':'))
          let port ← port? port
          return { ip, port }
      | _ => none

end Endpoint

end SensorGateway
