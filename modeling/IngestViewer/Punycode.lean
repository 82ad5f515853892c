import IngestViewer.Segments

namespace IngestViewer.Punycode

/-- The letters and digits that stand for the numbers below 36. -/
def digitChar (n : Nat) : Char :=
  if n < 26 then Char.ofNat ('a'.toNat + n) else Char.ofNat ('0'.toNat + (n - 26))

/-- The least number that the digit at a place does not finish. -/
def threshold (bias place : Nat) : Nat :=
  min 26 (max 1 (place - bias))

/-- A number in digits whose places have thresholds of their own. -/
def numberDigits (bias : Nat) : Nat → Nat → Nat → List Char
  | 0, _, q => [digitChar q]
  | fuel + 1, place, q =>
    let t := threshold bias place
    if q < t then [digitChar q]
    else
      digitChar (t + (q - t) % (36 - t)) ::
        numberDigits bias fuel (place + 36) ((q - t) / (36 - t))

/-- Divides by 35 down to at most 455 and counts the steps in units of 36. -/
def shrink : Nat → Nat → Nat → Nat × Nat
  | 0, delta, k => (delta, k)
  | fuel + 1, delta, k => if 455 < delta then shrink fuel (delta / 35) (k + 36) else (delta, k)

/-- The bias after a difference has been written. -/
def adapt (delta count : Nat) (first : Bool) : Nat :=
  let delta := if first then delta / 700 else delta / 2
  let (delta, k) := shrink 64 (delta + delta / count) 0
  k + 36 * delta / (delta + 38)

structure State where
  delta : Nat
  bias : Nat
  handled : Nat
  out : List Char

/-- Writes the places of one code point, walking through the text. -/
def writePlaces (n basics : Nat) : List Nat → State → State
  | [], s => s
  | c :: cs, s =>
    if c < n then writePlaces n basics cs { s with delta := s.delta + 1 }
    else if c = n then
      writePlaces n basics cs
        { delta := 0
          bias := adapt s.delta (s.handled + 1) (s.handled == basics)
          handled := s.handled + 1
          out := s.out ++ numberDigits s.bias 64 36 s.delta }
    else writePlaces n basics cs s

/-- Writes the code points above a bound in ascending order. -/
def writePoints (points : List Nat) (basics : Nat) : List Nat → Nat → State → State
  | [], _, s => s
  | m :: ms, n, s =>
    let s := { s with delta := s.delta + (m - n) * (s.handled + 1) }
    let s := writePlaces m basics points s
    writePoints points basics ms (m + 1) { s with delta := s.delta + 1 }

/-- A text in ASCII letters, digits and hyphens: its ASCII characters, and behind a hyphen the
others with their places. -/
def encode (cs : List Char) : List Char :=
  let points := cs.map Char.toNat
  let basic := cs.filter (·.toNat < 0x80)
  let others := ((points.filter (0x80 ≤ ·)).mergeSort (· ≤ ·)).eraseDups
  let start := if basic.isEmpty then [] else basic ++ ['-']
  (writePoints points basic.length others 0x80 ⟨0, 72, basic.length, start⟩).out

/-- The number that a letter or digit stands for. -/
def digitValue? (c : Char) : Option Nat :=
  if 'a' ≤ c && c ≤ 'z' then some (c.toNat - 'a'.toNat)
  else if c.isDigit then some (c.toNat - '0'.toNat + 26)
  else none

/-- The numbers that are too great for a code. -/
def numberBound : Nat := 0x100000000

/-- Reads a number in digits whose places have thresholds of their own. -/
def readNumber (bias place weight : Nat) : List Char → Option (Nat × List Char)
  | [] => none
  | c :: cs => do
    let d ← digitValue? c
    let t := threshold bias place
    if numberBound ≤ weight then none
    else if d < t then some (d * weight, cs)
    else
      let (n, rest) ← readNumber bias (place + 36) (weight * (36 - t)) cs
      some (d * weight + n, rest)

/-- Puts the characters of a row of numbers into a text. The bound is on how many there are. -/
def insertPoints (n place bias : Nat) (out : List Char) : Nat → List Char → Option (List Char)
  | _, [] => some out
  | 0, _ => none
  | fuel + 1, cs => do
    let (delta, rest) ← readNumber bias 36 1 cs
    if numberBound ≤ place + delta then none
    let count := out.length + 1
    let point := n + (place + delta) / count
    let here := (place + delta) % count
    if point.isValidChar then
      insertPoints point (here + 1) (adapt delta count (place == 0))
        (out.insertIdx here (Char.ofNat point)) fuel rest
    else none

/-- Reads a text that has been written in ASCII. -/
def decode (cs : List Char) : Option (List Char) :=
  let (basic, rest) := (cutLast '-' cs).getD ([], cs)
  insertPoints 0x80 0 72 basic rest.length rest

end IngestViewer.Punycode
