import IngestViewer.Json
import IngestViewer.ShortestDecimal

namespace IngestViewer.Json.Number

/-- The value of a number written without point and exponent. The text `-0` is no integer: its sign
would be lost. -/
def integer? (n : Number) : Option Int :=
  match n.fraction, n.exponent with
  | none, none =>
    if n.negative then (if n.whole = 0 then none else some (-(n.whole : Int))) else some n.whole
  | _, _ => none

/-- The integers that are kept exactly: those of 64 bits, with or without a sign. -/
def isExact (i : Int) : Bool :=
  -0x8000000000000000 ≤ i && i < 0x10000000000000000

/-- Appends digits to a significand as long as it stays below `2 ^ 64`. Answers the significand and
how many digits were left over. -/
def appendDigits (significand : Nat) : List Char → Nat × Nat
  | [] => (significand, 0)
  | d :: ds =>
    let next := significand * 10 + (d.toNat - '0'.toNat)
    if next < 0x10000000000000000 then appendDigits next ds else (significand, ds.length + 1)

/-- The number as a significand below `2 ^ 64` times a power of ten. Digits beyond what the
significand holds are dropped, those before the point with their weight kept. -/
def scientific (n : Number) : Nat × Int :=
  let (head, dropped) := appendDigits 0 (Nat.toDigits 10 n.whole)
  let digits := n.fraction.getD []
  let (significand, left) := appendDigits head digits
  (significand, (dropped : Int) - (digits.length - left : Nat) + n.exponent.getD 0)

def tenTo (e : Nat) : Float :=
  Float.ofScientific 1 false e

/-- `significand * 10 ^ e` in double arithmetic: one product or quotient with a power of ten, with a
division by `10 ^ 308` before it if the exponent is smaller than that. `none` is beyond all
doubles. -/
def scale (significand : Nat) (e : Int) : Option Float :=
  let x := significand.toUInt64.toFloat
  if 308 < e then
    if significand = 0 then some 0 else none
  else if 0 ≤ e then
    let y := x * tenTo e.toNat
    if y.isInf then none else some y
  else if -308 ≤ e then some (x / tenTo (-e).toNat)
  else if -616 ≤ e then some (x / tenTo 308 / tenTo (-e - 308).toNat)
  else some 0

/-- The double that stands for the number, without its sign. -/
def magnitude? (n : Number) : Option Float :=
  let (significand, e) := n.scientific
  scale significand e

/-- The largest and the smallest power of ten whose digits are written without an exponent. -/
def plainPowers : Int × Int := (15, -5)

/-- Positional notation where the first digit's power of ten allows it, with a digit on both sides
of the point; otherwise one digit before the point and an exponent with its sign. -/
def layout (d : Decimal) : List Char :=
  let ds := Nat.toDigits 10 d.digits
  let power : Int := ds.length - 1 + d.exponent
  if power ≤ plainPowers.1 ∧ plainPowers.2 ≤ power then
    if 0 ≤ d.exponent then ds ++ List.replicate d.exponent.toNat '0' ++ ".0".toList
    else if 0 ≤ power then ds.take (power.toNat + 1) ++ '.' :: ds.drop (power.toNat + 1)
    else "0.".toList ++ List.replicate (-power - 1).toNat '0' ++ ds
  else
    let mark := if power < 0 then '-' else '+'
    let tail := 'e' :: mark :: Nat.toDigits 10 power.natAbs
    ds.take 1 ++ (if ds.length ≤ 1 then tail else '.' :: ds.drop 1 ++ tail)

/-- A double's magnitude, in the fewest digits that read back. -/
def magnitudeText (x : Float) : List Char :=
  let (m, q) := binaryParts x
  if m = 0 then "0.0".toList else layout (shortestDecimal m q)

/-- The text of a number as a value: an exact integer in its digits, any other as a double. `none`
if it is beyond all doubles. -/
def text? (n : Number) : Option String :=
  match n.integer? with
  | some i => if isExact i then some (toString i) else floating
  | none => floating
where
  floating : Option String :=
    n.magnitude?.map fun x =>
      String.ofList ((if n.negative then ['-'] else []) ++ magnitudeText x)

/-- Whether a double stands for the number. -/
def isFinite (n : Number) : Bool :=
  n.text?.isSome

/-- The number as it is written. -/
def spelled (n : Number) : List Char :=
  (if n.negative then ['-'] else []) ++ Nat.toDigits 10 n.whole ++
    (match n.fraction with
      | some ds => '.' :: ds
      | none => []) ++
    match n.exponent with
    | some e => 'e' :: (if e < 0 then ['-'] else []) ++ Nat.toDigits 10 e.natAbs
    | none => []

end IngestViewer.Json.Number
