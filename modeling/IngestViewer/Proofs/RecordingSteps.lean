import IngestViewer.SharedHistory

namespace IngestViewer

namespace HistoryStep

/-- The numbers of the recordings that have got the lock, in the order in which they got it. -/
def acquisitions (steps : List HistoryStep) : List Nat :=
  steps.filterMap fun
    | .acquire n => some n
    | _ => none

/-- The numbers of the recordings that have written, in the order in which they wrote. -/
def writings (steps : List HistoryStep) : List Nat :=
  steps.filterMap fun
    | .write n => some n
    | _ => none

def arrivals (steps : List HistoryStep) : List IngestRecord :=
  steps.filterMap fun
    | .arrive r => some r
    | _ => none

theorem acquisitions_append (steps more : List HistoryStep) :
    acquisitions (steps ++ more) = acquisitions steps ++ acquisitions more :=
  List.filterMap_append

theorem writings_append (steps more : List HistoryStep) :
    writings (steps ++ more) = writings steps ++ writings more :=
  List.filterMap_append

theorem arrivals_append (steps more : List HistoryStep) :
    arrivals (steps ++ more) = arrivals steps ++ arrivals more :=
  List.filterMap_append

theorem mem_acquisitions {steps : List HistoryStep} {n : Nat} :
    n ∈ acquisitions steps ↔ .acquire n ∈ steps := by
  rw [acquisitions, List.mem_filterMap]
  constructor
  · rintro ⟨a, ha, got⟩
    cases a <;> cases got
    exact ha
  · exact fun h => ⟨_, h, rfl⟩

theorem mem_writings {steps : List HistoryStep} {n : Nat} :
    n ∈ writings steps ↔ .write n ∈ steps := by
  rw [writings, List.mem_filterMap]
  constructor
  · rintro ⟨a, ha, got⟩
    cases a <;> cases got
    exact ha
  · exact fun h => ⟨_, h, rfl⟩

end HistoryStep

namespace SharedHistory

variable {σ ε : Type} {slot : Slot σ ε}

/-- The runs of a history that nothing works on at first, with the steps taken. -/
inductive Run (slot : Slot σ ε) (start : σ) : List HistoryStep → SharedHistory σ ε → Prop where
  | here : Run slot start [] { world := start }
  | step {steps : List HistoryStep} {s t : SharedHistory σ ε} (a : HistoryStep) :
    Run slot start steps s → s.take? slot a = some t → Run slot start (steps ++ [a]) t

/-- What a step can do, said of the recording that takes it. -/
inductive Effect (slot : Slot σ ε) (s : SharedHistory σ ε) :
    HistoryStep → SharedHistory σ ε → Prop where
  | arrived (r : IngestRecord) :
    Effect slot s (.arrive r) { s with recordings := s.recordings ++ [⟨r, .waiting⟩] }
  | listed : Effect slot s .list { s with listed := s.listed ++ [HistoryStore.list slot s.world] }
  | acquired {n : Nat} {r : IngestRecord} (now : s.recordings[n]? = some ⟨r, .waiting⟩)
    (free : s.lock = none) :
    Effect slot s (.acquire n) { s.setStage n .locked with lock := some n }
  | loaded {n : Nat} {r : IngestRecord} {text : Option String}
    (now : s.recordings[n]? = some ⟨r, .locked⟩) (get : slot.get s.world = .ok text) :
    Effect slot s (.read n) (s.setStage n (.loaded text))
  | unread {n : Nat} {r : IngestRecord} {e : ε}
    (now : s.recordings[n]? = some ⟨r, .locked⟩) (get : slot.get s.world = .error e) :
    Effect slot s (.read n) (s.setStage n (.finished (.error (.unreadable e))))
  | wrote {n : Nat} {r : IngestRecord} {text : Option String}
    {outcome : Except (HistoryFault ε) Unit} {world : σ}
    (now : s.recordings[n]? = some ⟨r, .loaded text⟩)
    (done : slot.get s.world = .ok text → HistoryStore.record slot r s.world = (outcome, world)) :
    Effect slot s (.write n) { s.setStage n (.finished outcome) with world }
  | released {n : Nat} {r : IngestRecord} {outcome : Except (HistoryFault ε) Unit}
    (now : s.recordings[n]? = some ⟨r, .finished outcome⟩) :
    Effect slot s (.release n) { s.setStage n (.ended outcome) with lock := none }
  | cancelled {n : Nat} {r : IngestRecord} {stage : RecordingStage ε}
    (now : s.recordings[n]? = some ⟨r, stage⟩) (going : stage.isOver = false) :
    Effect slot s (.cancel n) { s.setStage n .cancelled with
      lock := if stage.holdsLock then none else s.lock }

theorem effect_of_take? {s t : SharedHistory σ ε} {a : HistoryStep} (h : s.take? slot a = some t) :
    Effect slot s a t := by
  cases a with
  | arrive r => cases h; exact .arrived r
  | list => cases h; exact .listed
  | acquire n =>
    simp only [take?] at h
    split at h
    next now free => cases h; exact .acquired now free
    next => cases h
  | read n =>
    simp only [take?] at h
    split at h
    next now =>
      split at h
      next get => cases h; exact .loaded now get
      next get => cases h; exact .unread now get
    next => cases h
  | write n =>
    simp only [take?] at h
    split at h
    next now =>
      split at h
      next set => cases h; exact .wrote now fun get => by simp only [HistoryStore.record, get, set]
      next set => cases h; exact .wrote now fun get => by simp only [HistoryStore.record, get, set]
    next => cases h
  | release n =>
    simp only [take?] at h
    split at h
    next now => cases h; exact .released now
    next => cases h
  | cancel n =>
    simp only [take?] at h
    split at h
    next now =>
      split at h
      next => cases h
      next going => cases h; exact .cancelled now (by simpa using going)
    next => cases h

end SharedHistory

end IngestViewer
