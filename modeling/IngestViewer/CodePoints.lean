import IngestViewer.PercentEncoding
import IngestViewer.Segments

/-!
Tables of code points. The rows of a table are words with blanks between them. A word has a code
point or the first and the last one of a run in front, in base 16, and sometimes more numbers behind
a colon.
-/

namespace IngestViewer.CodePoints

/-- A number in base 16. -/
def number (cs : List Char) : Nat :=
  cs.foldl (fun n c => n * 16 + (PercentEncoding.hexValue? c).getD 0) 0

/-- The first and the last code point of a run. -/
def run (cs : List Char) : Nat × Nat :=
  match cutFirst '-' cs with
  | some (first, last) => (number first, number last)
  | none => (number cs, number cs)

def words (rows : List String) : List (List Char) :=
  rows.flatMap fun row => segments ' ' row.toList

/-- The runs of a table that has nothing else. -/
def runs (rows : List String) : List (Nat × Nat) :=
  (words rows).map run

/-- The runs of a table, each with the numbers behind its colon. -/
def entries (rows : List String) : List ((Nat × Nat) × List Nat) :=
  (words rows).map fun word =>
    match cutFirst ':' word with
    | some (key, values) => (run key, (segments ',' values).map number)
    | none => (run word, [])

def isIn (r : Nat × Nat) (n : Nat) : Bool := r.1 ≤ n && n ≤ r.2

/-- Whether a code point is in one of some runs. -/
def isWithin (rs : List (Nat × Nat)) (n : Nat) : Bool := rs.any (isIn · n)

/-- The run that a code point is in, and its numbers. -/
def find? (es : List ((Nat × Nat) × List Nat)) (n : Nat) : Option ((Nat × Nat) × List Nat) :=
  es.find? fun e => isIn e.1 n

end IngestViewer.CodePoints
