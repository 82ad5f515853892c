import IngestViewer.DomainName

namespace IngestViewer

/-- Why a text is no URL. -/
inductive UrlFault where
  | emptyHost
  | invalidDomain
  | invalidCharacter
  | invalidPort
  | invalidIpv4
  | invalidIpv6
  | noScheme
deriving DecidableEq, Repr

def UrlFault.message : UrlFault → String
  | emptyHost => "empty host"
  | invalidDomain => "invalid international domain name"
  | invalidCharacter => "invalid domain character"
  | invalidPort => "invalid port number"
  | invalidIpv4 => "invalid IPv4 address"
  | invalidIpv6 => "invalid IPv6 address"
  | noScheme => "relative URL without a base"

namespace Host

def isHexDigit (c : Char) : Bool := (PercentEncoding.hexValue? c).isSome

def valueIn (base : Nat) (cs : List Char) : Nat :=
  cs.foldl (fun n c => n * base + (PercentEncoding.hexValue? c).getD 0) 0

/-- A part of an IPv4 address: decimal, octal behind a zero, or hexadecimal behind `0x`. -/
def ipv4Number? (cs : List Char) : Option Nat :=
  match cs with
  | [] => none
  | '0' :: 'x' :: ds | '0' :: 'X' :: ds =>
    if ds.all isHexDigit then some (valueIn 16 ds) else none
  | '0' :: d :: ds =>
    if (d :: ds).all (fun c => '0' ≤ c && c ≤ '7') then some (valueIn 8 (d :: ds)) else none
  | ds => if ds.all Char.isDigit then some (valueIn 10 ds) else none

/-- The labels of a host, without the empty one behind a last point. -/
def labels (host : List Char) : List (List Char) :=
  let parts := segments '.' host
  if parts.length > 1 && parts.getLast? == some [] then parts.dropLast else parts

/-- Whether a host has to be an IPv4 address: its last label is a number. -/
def endsInNumber (host : List Char) : Bool :=
  match (labels host).getLast? with
  | some l => !l.isEmpty && (l.all Char.isDigit || (ipv4Number? l).isSome)
  | none => false

/-- The value of an IPv4 address. Its last part fills the bytes that the others leave. -/
def ipv4? (host : List Char) : Option Nat := do
  let numbers ← (labels host).mapM ipv4Number?
  let last ← numbers.getLast?
  let before := numbers.dropLast
  if before.length ≤ 3 ∧ before.all (· ≤ 255) ∧ last < Nat.pow 256 (4 - before.length) then
    some (before.foldr (fun n rest => n * 0x1000000 + rest / 0x100) 0 + last)
  else none

def ipv4Text (n : Nat) : List Char :=
  let byte (k : Nat) := Nat.toDigits 10 (n / Nat.pow 256 k % 256)
  byte 3 ++ '.' :: byte 2 ++ '.' :: byte 1 ++ '.' :: byte 0

/-- A part of an IPv6 address in one to four hexadecimal digits. -/
def ipv6Piece? (cs : List Char) : Option Nat :=
  if !cs.isEmpty && cs.length ≤ 4 && cs.all isHexDigit then some (valueIn 16 cs) else none

/-- A part of the dotted end of an IPv6 address: no zero stands in front of another digit. -/
def dottedByte? (cs : List Char) : Option Nat :=
  match cs with
  | [] => none
  | '0' :: _ :: _ => none
  | ds => if ds.all Char.isDigit && valueIn 10 ds ≤ 255 then some (valueIn 10 ds) else none

/-- The pieces of an IPv6 address between its colons. The last one may be dotted and stands for two
then. -/
def ipv6Pieces? : List (List Char) → Option (List Nat)
  | [] => some []
  | [last] =>
    match (segments '.' last).mapM dottedByte? with
    | some [a, b, c, d] => some [a * 256 + b, c * 256 + d]
    | _ => (ipv6Piece? last).map ([·])
  | p :: ps => do
    let n ← ipv6Piece? p
    let ns ← ipv6Pieces? ps
    some (n :: ns)

/-- Divides a text at its first two colons in a row. -/
def cutDoubleColon : List Char → Option (List Char × List Char)
  | ':' :: ':' :: cs => some ([], cs)
  | c :: cs => (cutDoubleColon cs).map fun (a, b) => (c :: a, b)
  | [] => none

def ipv6Side? (cs : List Char) : Option (List Nat) :=
  if cs.isEmpty then some [] else ipv6Pieces? (segments ':' cs)

/-- The eight pieces of an IPv6 address. Two colons in a row stand for one zero or more. -/
def ipv6? (cs : List Char) : Option (List Nat) :=
  match cutDoubleColon cs with
  | some (a, b) => do
    if '.' ∈ a then none
    let left ← ipv6Side? a
    let right ← ipv6Side? b
    if left.length + right.length ≤ 7 then
      some (left ++ List.replicate (8 - left.length - right.length) 0 ++ right)
    else none
  | none => do
    let pieces ← ipv6Pieces? (segments ':' cs)
    if pieces.length = 8 then some pieces else none

/-- How many zeros a list begins with. -/
def zerosAhead (ns : List Nat) : Nat := (ns.takeWhile (· == 0)).length

/-- The place and the length of the first of the longest runs of zeros. -/
def longestZeros : List Nat → Nat → Nat × Nat
  | [], place => (place, 0)
  | n :: ns, place =>
    let here := zerosAhead (n :: ns)
    let rest := longestZeros ns (place + 1)
    if rest.2 ≤ here then (place, here) else rest

def hexPieces (ns : List Nat) : List Char :=
  [':'].intercalate (ns.map (Nat.toDigits 16))

/-- An IPv6 address with its longest run of zeros left out, if it is longer than one. -/
def ipv6Text (ns : List Nat) : List Char :=
  let (place, len) := longestZeros ns 0
  if len < 2 then hexPieces ns
  else hexPieces (ns.take place) ++ [':', ':'] ++ hexPieces (ns.drop (place + len))

/-- The characters that no host may have. -/
def isForbidden (c : Char) : Bool :=
  c.toNat == 0 || c ∈ ['\t', '\n', '\r', ' ', '#', '/', ':', '<', '>', '?', '@', '[', '\\', ']',
    '^', '|']

def isForbiddenInDomain (c : Char) : Bool :=
  isForbidden c || c.toNat < 0x20 || c == '%' || c.toNat == 0x7F

/-- A domain in ASCII: `none` if it has a character that no domain may have. -/
def domain? (cs : List Char) : Option (List Char) :=
  (DomainName.ascii? cs).filter fun ascii => !ascii.any isForbiddenInDomain

/-- Reads the host of a scheme with known rules. -/
def ofSpecial (cs : List Char) : Except UrlFault (List Char) :=
  match cs with
  | [] => .error .emptyHost
  | '[' :: rest =>
    match rest.getLast? with
    | some ']' =>
      match ipv6? rest.dropLast with
      | some pieces => .ok ('[' :: ipv6Text pieces ++ [']'])
      | none => .error .invalidIpv6
    | _ => .error .invalidIpv6
  | cs =>
    match domain? (Utf8.lossyText (PercentEncoding.decode cs)).toList with
    | none => .error .invalidDomain
    | some [] => .error .emptyHost
    | some host =>
      if endsInNumber host then
        match ipv4? host with
        | some n => .ok (ipv4Text n)
        | none => .error .invalidIpv4
      else .ok host

/-- Reads the host of any other scheme. -/
def ofOpaque (cs : List Char) : Except UrlFault (List Char) :=
  match cs with
  | '[' :: _ => ofSpecial cs
  | cs =>
    if cs.any isForbidden then .error .invalidCharacter
    else .ok (PercentEncoding.encode PercentEncoding.inOpaque cs)

end Host

end IngestViewer
