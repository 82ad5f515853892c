import IngestViewer.Inspection

namespace IngestViewer

/-- Somebody who is told of every record that is found, in a world of states `σ`. Whether it
succeeded in what it does with the record is known afterwards. -/
abbrev Observer (σ : Type) := IngestRecord → σ → Bool × σ

namespace Inspector

variable {σ : Type}

/-- Tells all observers of a record, in order. One that fails does not keep the next from it. -/
def notify (observers : List (Observer σ)) (r : IngestRecord) (s : σ) : σ :=
  observers.foldl (fun s observer => (observer r s).2) s

/-- What a lookup's result leads to: the observers are told of a record, and the result is put into
words. -/
def inspect (observers : List (Observer σ)) (f : TimeFormatter) (result : LookupResult) (s : σ)
    (c : Clock) : Inspection × σ × Clock :=
  let s :=
    match result with
    | .ok r => notify observers r s
    | .error _ => s
  let (inspection, c) := Inspection.ofResult f result c
  (inspection, s, c)

end Inspector

end IngestViewer
