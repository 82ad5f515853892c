namespace IngestViewer

/-- A decimal number `digits * 10 ^ exponent`. -/
structure Decimal where
  digits : Nat
  exponent : Int
deriving DecidableEq, Repr

/-- The least mantissa of a double that is not too small to have an exponent of its own. -/
def leastMantissa : Nat := 0x10000000000000

/-- `2 ^ q / 10 ^ k` as numerator and denominator. -/
def binaryOverDecimal (q k : Int) : Nat × Nat :=
  (Nat.pow 2 q.toNat * Nat.pow 10 (-k).toNat, Nat.pow 2 (-q).toNat * Nat.pow 10 k.toNat)

/-- The numbers that are rounded to a double `m * 2 ^ q`: its ends in units of `2 ^ (q - 2)`, and
whether they belong to it. -/
structure Rounding where
  lower : Nat
  upper : Nat
  closed : Bool

def Rounding.of (m : Nat) (q : Int) : Rounding where
  lower := if m = leastMantissa ∧ q ≠ -1074 then 4 * m - 1 else 4 * m - 2
  upper := 4 * m + 2
  closed := m % 2 = 0

/-- Whether `c` lies in the interval, for a unit of `a / b`. -/
def Rounding.contains (r : Rounding) (a b c : Nat) : Bool :=
  if r.closed then r.lower * a ≤ c * b && c * b ≤ r.upper * a
  else r.lower * a < c * b && c * b < r.upper * a

/-- The multiple of `10 ^ k` nearest to `m * 2 ^ q` of those that read back as it. Of two that are
equally near the even one is taken. -/
def readsBackOnGrid (m : Nat) (q k : Int) : Option Nat :=
  let (a, b) := binaryOverDecimal (q - 2) k
  let below := 4 * m * a / b
  let hits := (Rounding.of m q).contains a b
  let rest := 4 * m * a % b
  match hits below, hits (below + 1) with
  | true, true =>
    some (if 2 * rest < b || (2 * rest == b && below % 2 == 0) then below else below + 1)
  | true, false => some below
  | false, true => some (below + 1)
  | false, false => none

/-- Tries the grids `10 ^ k`, `10 ^ (k - 1)`, … until one holds a number that reads back. -/
def readsBackFrom (m : Nat) (q : Int) : Nat → Int → Decimal
  | 0, k => ⟨0, k⟩
  | n + 1, k =>
    match readsBackOnGrid m q k with
    | some c => ⟨c, k⟩
    | none => readsBackFrom m q n (k - 1)

/-- The decimal with the fewest digits that reads back as the positive double `m * 2 ^ q`, and of
those the nearest to it. -/
def shortestDecimal (m : Nat) (q : Int) : Decimal :=
  readsBackFrom m q 640 309

/-- The mantissa and the exponent of a finite double's magnitude. -/
def binaryParts (x : Float) : Nat × Int :=
  let bits := x.toBits.toNat
  let fraction := bits % leastMantissa
  let field : Nat := bits / leastMantissa % 0x800
  if field = 0 then (fraction, -1074) else (leastMantissa + fraction, (field : Int) - 1075)

end IngestViewer
