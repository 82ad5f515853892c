import IngestViewer.CodePoints
import IngestViewer.DomainCharacterRows

/-!
The characters that a domain may be written with, and those that stand for them, for Unicode 17:
letters lose their case, and forms that differ in width or style only become the plain one.
-/

namespace IngestViewer.DomainCharacter

def refused : List (Nat × Nat) := CodePoints.runs refusedRows

def dropped : List (Nat × Nat) := CodePoints.runs droppedRows

def shifted : List ((Nat × Nat) × List Nat) := CodePoints.entries shiftedRows

def paired : List (Nat × Nat) := CodePoints.runs pairedRows

def replaced : List ((Nat × Nat) × List Nat) := CodePoints.entries replacedRows

/-- The code point in a run of pairs that a code point of the run stands for. -/
def partner (r : Nat × Nat) (n : Nat) : Nat :=
  if (n - r.1) % 2 = 0 then n + 1 else n

/-- The code points that one beyond ASCII stands for; `none` if no domain may have it. -/
def beyondAscii? (n : Nat) : Option (List Nat) :=
  if CodePoints.isWithin refused n then none
  else if CodePoints.isWithin dropped n then some []
  else
    match CodePoints.find? replaced n, CodePoints.find? shifted n,
      paired.find? (CodePoints.isIn · n) with
    | some (_, ns), _, _ => some ns
    | none, some (r, [m]), _ => some [n - r.1 + m]
    | none, none, some r => some [partner r n]
    | none, _, _ => some [n]

/-- The characters that a character stands for; `none` if no domain may have it. -/
def forms? (c : Char) : Option (List Char) :=
  if c.toNat < 0x80 then some [c.toLower] else (beyondAscii? c.toNat).map (·.map Char.ofNat)

end IngestViewer.DomainCharacter
