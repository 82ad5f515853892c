import IngestViewer.Utf8

namespace IngestViewer.PercentEncoding

/-- A digit of a percent-encoded byte. -/
def hexDigit (n : Nat) : Char :=
  if n < 10 then Char.ofNat ('0'.toNat + n) else Char.ofNat ('A'.toNat + (n - 10))

def encodeByte (b : UInt8) : List Char :=
  ['%', hexDigit (b.toNat / 16), hexDigit (b.toNat % 16)]

/-- Encodes the bytes of a character that is not ASCII, no visible character, or in a set. -/
def encodeChar (special : Char → Bool) (c : Char) : List Char :=
  if 0x7F ≤ c.toNat || c.toNat < 0x20 || special c then
    (String.utf8EncodeChar c).flatMap encodeByte
  else [c]

/-- A text with the characters encoded that may not stand for themselves. -/
def encode (special : Char → Bool) (cs : List Char) : List Char :=
  cs.flatMap (encodeChar special)

def inFragment (c : Char) : Bool := c ∈ [' ', '"', '<', '>', '\x60']

def inQuery (c : Char) : Bool := c ∈ [' ', '"', '#', '<', '>']

/-- A query of a scheme with known rules has the apostrophe encoded too. -/
def inSpecialQuery (c : Char) : Bool := inQuery c || c == '\''

def inPath (c : Char) : Bool := inFragment c || c ∈ ['#', '?', '{', '}']

/-- A text that is to be one segment of a path. -/
def inSegment (c : Char) : Bool := inPath c || c ∈ ['/', '%']

/-- A backslash divides segments in schemes with known rules. -/
def inSpecialSegment (c : Char) : Bool := inSegment c || c == '\\'

def inCredentials (c : Char) : Bool :=
  inPath c || c ∈ ['/', ':', ';', '=', '@', '[', '\\', ']', '^', '|']

/-- Only what has no place in any part. -/
def inOpaque (_ : Char) : Bool := false

def hexValue? (c : Char) : Option Nat :=
  if '0' ≤ c ∧ c ≤ '9' then some (c.toNat - '0'.toNat)
  else if 'a' ≤ c ∧ c ≤ 'f' then some (c.toNat - 'a'.toNat + 10)
  else if 'A' ≤ c ∧ c ≤ 'F' then some (c.toNat - 'A'.toNat + 10)
  else none

/-- The bytes behind a text. A percent sign without two digits stands for itself. -/
def decode : List Char → List UInt8
  | [] => []
  | '%' :: a :: b :: cs =>
    match hexValue? a, hexValue? b with
    | some m, some n => (m * 16 + n).toUInt8 :: decode cs
    | _, _ => 0x25 :: decode (a :: b :: cs)
  | c :: cs => String.utf8EncodeChar c ++ decode cs

end IngestViewer.PercentEncoding
