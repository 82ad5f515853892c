import IngestViewer.CombiningMark
import IngestViewer.CompositionRows

/-!
The composed form of a text, in which a letter and its marks are one character wherever there is
such a character, as Unicode 17 has it. Texts that look alike because they are made of the same
letters and marks have one composed form.
-/

namespace IngestViewer.Composition

def pairs : List ((Nat × Nat) × List Nat) := CodePoints.entries pairRows

def replaced : List ((Nat × Nat) × List Nat) := CodePoints.entries replacedRows

/-- The parts of a syllable that is written as one character: a consonant and a vowel, and often
another consonant. -/
def syllableParts? (n : Nat) : Option (List Nat) :=
  if 0xAC00 ≤ n ∧ n ≤ 0xD7A3 then
    let place := n - 0xAC00
    let last := if place % 28 = 0 then [] else [0x11A7 + place % 28]
    some ([0x1100 + place / 588, 0x1161 + place % 588 / 28] ++ last)
  else none

/-- The syllable that two parts make, or a syllable and its last consonant. -/
def syllable? (a b : Nat) : Option Nat :=
  if 0x1100 ≤ a ∧ a ≤ 0x1112 ∧ 0x1161 ≤ b ∧ b ≤ 0x1175 then
    some (0xAC00 + (a - 0x1100) * 588 + (b - 0x1161) * 28)
  else if 0xAC00 ≤ a ∧ a ≤ 0xD7A3 ∧ (a - 0xAC00) % 28 = 0 ∧ 0x11A8 ≤ b ∧ b ≤ 0x11C2 then
    some (a + (b - 0x11A7))
  else none

/-- What a code point is made of. The bound is on how often its first part is made of others. -/
def parts : Nat → Nat → List Nat
  | 0, n => [n]
  | depth + 1, n =>
    match syllableParts? n, CodePoints.find? replaced n, CodePoints.find? pairs n with
    | some ps, _, _ => ps
    | none, some (_, ps), _ => ps
    | none, none, some (_, [a, b]) => parts depth a ++ [b]
    | none, none, _ => [n]

/-- Puts a code point in front of marks, behind those whose places come first. -/
def insertMark (n : Nat) : List Nat → List Nat
  | [] => [n]
  | m :: ms =>
    let before := CombiningMark.combiningClass m
    if 0 < before ∧ before < CombiningMark.combiningClass n then m :: insertMark n ms
    else n :: m :: ms

/-- A text in its smallest parts, the marks of each letter in the order of their places. -/
def decomposed (ns : List Nat) : List Nat :=
  (ns.flatMap (parts 4)).foldr insertMark []

/-- The code point that two make. -/
def composed? (a b : Nat) : Option Nat :=
  match syllable? a b with
  | some n => some n
  | none => (pairs.find? fun e => e.2 == [a, b]).map (·.1.1)

/-- Whether a mark or letter can go to a letter with other marks in between: its place comes after
all of theirs. -/
def isOpen (between : List Nat) (n : Nat) : Bool :=
  match between.getLast? with
  | none => true
  | some m => CombiningMark.combiningClass m < CombiningMark.combiningClass n

/-- Composes what follows a letter with it, given the marks in between that stay. -/
def composeFrom (letter : Nat) (between : List Nat) : List Nat → List Nat
  | [] => letter :: between
  | n :: ns =>
    match if isOpen between n then composed? letter n else none with
    | some made => composeFrom made between ns
    | none =>
      if CombiningMark.combiningClass n = 0 then letter :: between ++ composeFrom n [] ns
      else composeFrom letter (between ++ [n]) ns

def composeAll : List Nat → List Nat
  | [] => []
  | n :: ns =>
    if CombiningMark.combiningClass n = 0 then composeFrom n [] ns else n :: composeAll ns

/-- The composed form of a text. -/
def compose (cs : List Char) : List Char :=
  (composeAll (decomposed (cs.map Char.toNat))).map Char.ofNat

end IngestViewer.Composition
