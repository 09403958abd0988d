import CrossRate.Location.DomainName
import CrossRate.Text.Bytes
import CrossRate.Text.Quoted

/-!
# Hosts

The host of a web address is a domain name or an internet address. `Host.parse` reads the
written forms that web addresses allow, and `Host.print` gives the one form that it is
known by.
-/

namespace CrossRate

/-- Why a text is no web address. -/
inductive UrlFault where
  | emptyHost
  | invalidPort
  | invalidName
  | invalidIpv4
  | invalidIpv6
deriving DecidableEq

namespace UrlFault

def message : UrlFault → String
  | emptyHost => "empty host"
  | invalidPort => "invalid port number"
  | invalidName => "invalid international domain name"
  | invalidIpv4 => "invalid IPv4 address"
  | invalidIpv6 => "invalid IPv6 address"

end UrlFault

/-- The host of a web address. -/
inductive Host where
  /-- A domain name in ASCII. -/
  | name (text : String)
  /-- An internet address of 32 bits. -/
  | ipv4 (address : Nat)
  /-- An internet address of eight pieces of 16 bits. -/
  | ipv6 (pieces : List Nat)
deriving DecidableEq

namespace Host

/-- The value of a digit in a base of at most 16. -/
def digitIn? (base : Nat) (c : Char) : Option Nat :=
  let value :=
    if c.isDigit then some (c.toNat - '0'.toNat)
    else if 'a' ≤ c ∧ c ≤ 'f' then some (c.toNat - 'a'.toNat + 10)
    else if 'A' ≤ c ∧ c ≤ 'F' then some (c.toNat - 'A'.toNat + 10)
    else none
  value.filter (· < base)

/-- The number of digits in a base; none at all stand for zero. -/
def numberIn? (base : Nat) (cs : List Char) : Option Nat :=
  cs.foldlM (fun n c => (digitIn? base c).map (base * n + ·)) 0

/-! ### Addresses of 32 bits -/

/-- A part of an address: hexadecimal after `0x`, octal after `0`, decimal otherwise. -/
def ipv4Part? : List Char → Option Nat
  | [] => none
  | '0' :: 'x' :: rest | '0' :: 'X' :: rest => numberIn? 16 rest
  | '0' :: c :: rest => numberIn? 8 (c :: rest)
  | cs => numberIn? 10 cs

/-- The parts of a name, without the empty one after a dot at its end. -/
def dottedParts (cs : List Char) : List (List Char) :=
  let parts := cs.splitOn '.'
  if parts.length > 1 ∧ parts.getLast? = some [] then parts.dropLast else parts

/-- Whether a name can only be meant for an address: its last part is a number. -/
def endsInNumber (cs : List Char) : Bool :=
  match (dottedParts cs).getLast? with
  | some last => (!last.isEmpty && last.all Char.isDigit) || (ipv4Part? last).isSome
  | none => false

/-- An address of one to four parts, the last of which fills the bytes that remain. -/
def ipv4? (cs : List Char) : Option Nat := do
  let parts ← (dottedParts cs).mapM ipv4Part?
  if 4 < parts.length then none
  let last ← parts.getLast?
  let bytes := parts.dropLast
  if bytes.all (· < 256) ∧ last < Nat.pow 256 (4 - bytes.length) then
    return bytes.zipIdx.foldl (fun n (byte, i) => n + byte * Nat.pow 256 (3 - i)) last
  else none

/-- The written form of an address of 32 bits. -/
def printIpv4 (n : Nat) : String :=
  ".".intercalate ([3, 2, 1, 0].map (fun i => toString (n / Nat.pow 256 i % 256)))

/-! ### Addresses of 128 bits -/

/-- A piece of an address: one to four hexadecimal digits. -/
def ipv6Piece? (cs : List Char) : Option Nat :=
  if cs.isEmpty || 4 < cs.length then none else numberIn? 16 cs

/-- Two pieces written as an address of 32 bits, in four decimal parts without leading
zeros. -/
def ipv6Tail? (cs : List Char) : Option (List Nat) := do
  let parts := cs.splitOn '.'
  if parts.length ≠ 4 then none
  if parts.any (fun p => p.isEmpty || (p.length > 1 && p.head? = some '0')) then none
  let bytes ← parts.mapM (numberIn? 10)
  match bytes with
  | [a, b, c, d] =>
    if bytes.all (· < 256) then return [256 * a + b, 256 * c + d] else none
  | _ => none

/-- Pieces between colons, the last of which may stand for two. -/
def ipv6Pieces? : List (List Char) → Option (List Nat)
  | [] => some []
  | [last] => if last.contains '.' then ipv6Tail? last else (ipv6Piece? last).map ([·])
  | piece :: rest => do return (← ipv6Piece? piece) :: (← ipv6Pieces? rest)

/-- Split at the first pair of colons. -/
def splitAtColons : List Char → List Char × Option (List Char)
  | ':' :: ':' :: rest => ([], some rest)
  | c :: rest =>
    let (before, after) := splitAtColons rest
    (c :: before, after)
  | [] => ([], none)

/-- The pieces of a part of an address, none if it is empty. -/
def ipv6Part? (cs : List Char) : Option (List Nat) :=
  if cs.isEmpty then some [] else ipv6Pieces? (cs.splitOn ':')

/-- An address of eight pieces, one run of zeros of which may be left out between two
colons. -/
def ipv6? (cs : List Char) : Option (List Nat) := do
  match splitAtColons cs with
  | (whole, none) =>
    let pieces ← ipv6Part? whole
    if pieces.length = 8 then return pieces else none
  | (before, some after) =>
    if before.contains '.' then none
    let high ← ipv6Part? before
    let low ← ipv6Part? after
    let left := high.length + low.length
    if left < 8 then return high ++ List.replicate (8 - left) 0 ++ low else none

/-- The number of zeros at the start. -/
def zerosAt (pieces : List Nat) : Nat := (pieces.takeWhile (· = 0)).length

/-- The start of the first of the longest runs of zeros, and its length. -/
def longestZeros (pieces : List Nat) : Nat × Nat :=
  (List.range pieces.length).foldl
    (fun best i =>
      let n := zerosAt (pieces.drop i)
      if best.2 < n then (i, n) else best)
    (0, 0)

/-- Pieces in hexadecimal, colons between them. -/
def printPieces (pieces : List Nat) : String := ":".intercalate (pieces.map Text.hex)

/-- The written form of an address of eight pieces. -/
def printIpv6 (pieces : List Nat) : String :=
  let (start, n) := longestZeros pieces
  if n < 2 then printPieces pieces
  else printPieces (pieces.take start) ++ "::" ++ printPieces (pieces.drop (start + n))

/-! ### Names -/

/-- Undo the escapes of a percent sign and two hexadecimal digits. -/
def percentDecode : Bytes → Bytes
  | 0x25 :: a :: b :: rest =>
    match digitIn? 16 (Char.ofNat a.toNat), digitIn? 16 (Char.ofNat b.toNat) with
    | some high, some low => (high * 16 + low).toUInt8 :: percentDecode rest
    | _, _ => 0x25 :: percentDecode (a :: b :: rest)
  | b :: rest => b :: percentDecode rest
  | [] => []

/-- The form in ASCII of a name with escapes. -/
def asciiName? (cs : List Char) : Option (List Char) :=
  DomainName.ascii? (Text.decodeLossy (percentDecode (Text.encode (String.ofList cs)))).toList

/-- Read a host. -/
def parse (cs : List Char) : Except UrlFault Host :=
  match cs with
  | [] => .error .emptyHost
  | '[' :: rest =>
    if rest.getLast? = some ']' then
      match ipv6? rest.dropLast with
      | some pieces => .ok (.ipv6 pieces)
      | none => .error .invalidIpv6
    else .error .invalidIpv6
  | _ =>
    match asciiName? cs with
    | none => .error .invalidName
    | some [] => .error .emptyHost
    | some domain =>
      if endsInNumber domain then
        match ipv4? domain with
        | some address => .ok (.ipv4 address)
        | none => .error .invalidIpv4
      else .ok (.name (String.ofList domain))

def print : Host → String
  | name text => text
  | ipv4 address => printIpv4 address
  | ipv6 pieces => "[" ++ printIpv6 pieces ++ "]"

end Host

end CrossRate
