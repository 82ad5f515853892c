import Mathlib.Data.List.Nodup
import IngestViewer.Proofs.RecordingSteps

namespace IngestViewer

open HistoryStep (acquisitions writings arrivals)

variable {σ ε : Type} {slot : Slot σ ε}

namespace RecordingStage

/-- Whether the call may still have to write. -/
def isBeforeWriting : RecordingStage ε → Bool
  | waiting | locked | loaded _ => true
  | _ => false

end RecordingStage

/-- How the stage of a recording goes with the lock, with the world, and with the steps that have
been taken. -/
structure Recording.Fits (slot : Slot σ ε) (world : σ) (lock : Option Nat)
    (steps : List HistoryStep) (n : Nat) (r : Recording ε) : Prop where
  holder : r.stage.holdsLock = true ↔ lock = some n
  current : ∀ text, r.stage = .loaded text → slot.get world = .ok text
  acquired : .acquire n ∈ steps → r.stage ≠ .waiting
  written : .write n ∈ steps → r.stage.isBeforeWriting = false

namespace SharedHistory

/-- What holds of the recordings between the steps of a run. -/
structure Sound (slot : Slot σ ε) (steps : List HistoryStep) (s : SharedHistory σ ε) : Prop where
  arrived : s.recordings.map (·.record) = arrivals steps
  fits : ∀ n (r : Recording ε), s.recordings[n]? = some r → r.Fits slot s.world s.lock steps n
  held : ∀ n, s.lock = some n → n < s.recordings.length

/-- What holds of the lock between the steps of a run: who has it got it last, nobody gets it twice,
and recordings write in the order in which they get it. -/
structure Ordered (steps : List HistoryStep) (s : SharedHistory σ ε) : Prop where
  known : ∀ n ∈ acquisitions steps, n < s.recordings.length
  once : (acquisitions steps).Nodup
  latest : ∀ n, s.lock = some n → (acquisitions steps).getLast? = some n
  order : writings steps = (acquisitions steps).filter (· ∈ writings steps)

theorem getElem?_setStage_self {s : SharedHistory σ ε} {n : Nat} {r : Recording ε}
    (now : s.recordings[n]? = some r) (stage : RecordingStage ε) :
    (s.setStage n stage).recordings[n]? = some ⟨r.record, stage⟩ := by
  simp [setStage, now]

theorem getElem?_setStage_other {s : SharedHistory σ ε} {m n : Nat} (apart : m ≠ n)
    (stage : RecordingStage ε) :
    (s.setStage n stage).recordings[m]? = s.recordings[m]? :=
  List.getElem?_modify_ne _ _ (Ne.symm apart)

theorem length_setStage (s : SharedHistory σ ε) (n : Nat) (stage : RecordingStage ε) :
    (s.setStage n stage).recordings.length = s.recordings.length :=
  List.length_modify _ _ _

theorem records_setStage (s : SharedHistory σ ε) (n : Nat) (stage : RecordingStage ε) :
    (s.setStage n stage).recordings.map (·.record) = s.recordings.map (·.record) := by
  refine List.ext_getElem? fun m => ?_
  rw [List.getElem?_map, List.getElem?_map]
  by_cases same : m = n
  · subst same
    cases now : s.recordings[m]? with
    | none => simp [setStage, now]
    | some r => rw [getElem?_setStage_self now]; rfl
  · rw [getElem?_setStage_other same]

theorem mem_of_mem_concat {α : Type} {l : List α} {a b : α} (h : b ∈ l ++ [a]) (apart : b ≠ a) :
    b ∈ l := by
  rcases List.mem_append.mp h with h | h
  · exact h
  · exact absurd (List.mem_singleton.mp h) apart

/-- What is neither the step of a recording nor touches what it has read leaves it fitting. -/
theorem fits_of_untouched {world world' : σ} {lock lock' : Option Nat} {steps : List HistoryStep}
    {n : Nat} {r : Recording ε} (h : r.Fits slot world lock steps n) {a : HistoryStep}
    (foreign : a ≠ .acquire n ∧ a ≠ .write n) (sameLock : lock' = some n ↔ lock = some n)
    (sameWorld : lock = some n → world' = world) : r.Fits slot world' lock' (steps ++ [a]) n where
  holder := h.holder.trans sameLock.symm
  current text loaded := by
    have holds : r.stage.holdsLock = true := by rw [loaded]; rfl
    rw [sameWorld (h.holder.mp holds)]
    exact h.current text loaded
  acquired got := h.acquired (mem_of_mem_concat got (Ne.symm foreign.1))
  written wrote := h.written (mem_of_mem_concat wrote (Ne.symm foreign.2))

/-- A step of one recording, which leaves the lock and the world of the others alone. -/
theorem sound_moved {steps : List HistoryStep} {s : SharedHistory σ ε} (sound : Sound slot steps s)
    {n : Nat} {r : IngestRecord} {old new : RecordingStage ε} {world : σ} {lock : Option Nat}
    {a : HistoryStep} (now : s.recordings[n]? = some ⟨r, old⟩) (nobody : arrivals [a] = [])
    (foreign : ∀ m, m ≠ n → a ≠ .acquire m ∧ a ≠ .write m)
    (locks : ∀ m, m ≠ n → (lock = some m ↔ s.lock = some m))
    (worlds : ∀ m, m ≠ n → s.lock = some m → world = s.world)
    (fits : Recording.Fits slot world lock (steps ++ [a]) n ⟨r, new⟩) :
    Sound slot (steps ++ [a]) { s.setStage n new with world, lock } where
  arrived := by
    rw [HistoryStep.arrivals_append, nobody, List.append_nil, ← sound.arrived]
    exact records_setStage s n new
  fits m r' now' := by
    by_cases same : m = n
    · subst same
      have found := getElem?_setStage_self now new
      cases found.symm.trans now'
      exact fits
    · have found := getElem?_setStage_other (s := s) same new
      exact fits_of_untouched (sound.fits m r' (found.symm.trans now')) (foreign m same)
        (locks m same) (worlds m same)
  held m got := by
    change m < (s.setStage n new).recordings.length
    rw [length_setStage]
    by_cases same : m = n
    · rw [same]
      exact (List.getElem?_eq_some_iff.mp now).1
    · exact sound.held m ((locks m same).mp got)

theorem ordered_of_quiet {steps : List HistoryStep} {s t : SharedHistory σ ε}
    (ordered : Ordered steps s) {a : HistoryStep} (quiet : acquisitions [a] = [])
    (silent : writings [a] = []) (length : s.recordings.length ≤ t.recordings.length)
    (locks : ∀ n, t.lock = some n → s.lock = some n) : Ordered (steps ++ [a]) t := by
  have sameLocks : acquisitions (steps ++ [a]) = acquisitions steps := by
    rw [HistoryStep.acquisitions_append, quiet, List.append_nil]
  have sameWrites : writings (steps ++ [a]) = writings steps := by
    rw [HistoryStep.writings_append, silent, List.append_nil]
  constructor
  · rw [sameLocks]
    exact fun n h => Nat.lt_of_lt_of_le (ordered.known n h) length
  · rw [sameLocks]
    exact ordered.once
  · rw [sameLocks]
    exact fun n h => ordered.latest n (locks n h)
  · rw [sameLocks, sameWrites]
    exact ordered.order

theorem sound_start (slot : Slot σ ε) (start : σ) : Sound slot [] { world := start } where
  arrived := rfl
  fits := by rintro n r ⟨⟩
  held := by rintro n ⟨⟩

theorem ordered_start (start : σ) : Ordered (ε := ε) [] { world := start } where
  known := by rintro n ⟨⟩
  once := .nil
  latest := by rintro n ⟨⟩
  order := rfl

theorem known_of_written {steps : List HistoryStep} {s : SharedHistory σ ε}
    (ordered : Ordered steps s) {n : Nat} (wrote : .write n ∈ steps) :
    n < s.recordings.length := by
  have written := HistoryStep.mem_writings.mpr wrote
  rw [ordered.order] at written
  exact ordered.known n (List.mem_filter.mp written).1

theorem fits_new {steps : List HistoryStep} {s : SharedHistory σ ε} (sound : Sound slot steps s)
    (ordered : Ordered steps s) (r : IngestRecord) :
    Recording.Fits slot s.world s.lock (steps ++ [.arrive r]) s.recordings.length
      ⟨r, .waiting⟩ := by
  have unlocked : s.lock ≠ some s.recordings.length := fun got =>
    Nat.lt_irrefl _ (sound.held _ got)
  refine ⟨?_, nofun, fun got => ?_, fun wrote => ?_⟩
  · simp [RecordingStage.holdsLock, unlocked]
  · have known := ordered.known _ (HistoryStep.mem_acquisitions.mpr (mem_of_mem_concat got nofun))
    exact absurd known (Nat.lt_irrefl _)
  · exact absurd (known_of_written ordered (mem_of_mem_concat wrote nofun)) (Nat.lt_irrefl _)

theorem sound_of_effect {steps : List HistoryStep} {s t : SharedHistory σ ε}
    (sound : Sound slot steps s) (ordered : Ordered steps s) {a : HistoryStep}
    (effect : Effect slot s a t) : Sound slot (steps ++ [a]) t := by
  cases effect with
  | arrived r =>
    refine ⟨?_, fun n r' now => ?_, fun n got => ?_⟩
    · rw [HistoryStep.arrivals_append, ← sound.arrived]
      exact List.map_append
    · by_cases old : n < s.recordings.length
      · rw [List.getElem?_append_left old] at now
        exact fits_of_untouched (sound.fits n r' now) ⟨nofun, nofun⟩ Iff.rfl fun _ => rfl
      · have latest : n = s.recordings.length := by
          have bound := (List.getElem?_eq_some_iff.mp now).1
          rw [List.length_append, List.length_singleton] at bound
          omega
        subst latest
        have new : r' = ⟨r, .waiting⟩ := by simpa using now.symm
        rw [new]
        exact fits_new sound ordered r
    · have bound := sound.held n got
      simp only [List.length_append, List.length_singleton]
      omega
  | listed =>
    refine ⟨?_, fun n r' now => ?_, sound.held⟩
    · rw [HistoryStep.arrivals_append, ← sound.arrived]
      exact (List.append_nil _).symm
    · exact fits_of_untouched (sound.fits n r' now) ⟨nofun, nofun⟩ Iff.rfl fun _ => rfl
  | @acquired n r now free =>
    have old := sound.fits n _ now
    refine sound_moved sound now rfl (fun m apart => ⟨?_, nofun⟩) (fun m apart => ?_)
      (fun _ _ _ => rfl) ⟨?_, nofun, fun _ => nofun, fun wrote => ?_⟩
    · simpa using Ne.symm apart
    · simp [free, Ne.symm apart]
    · simp [RecordingStage.holdsLock]
    · cases old.written (mem_of_mem_concat wrote nofun)
  | @loaded n r text now get =>
    have old := sound.fits n _ now
    refine sound_moved sound now rfl (fun _ _ => ⟨nofun, nofun⟩) (fun _ _ => Iff.rfl)
      (fun _ _ _ => rfl) ⟨old.holder, ?_, fun _ => nofun, fun wrote => ?_⟩
    · rintro text' ⟨⟩
      exact get
    · cases old.written (mem_of_mem_concat wrote nofun)
  | @unread n r e now get =>
    have old := sound.fits n _ now
    exact sound_moved sound now rfl (fun _ _ => ⟨nofun, nofun⟩) (fun _ _ => Iff.rfl)
      (fun _ _ _ => rfl) ⟨old.holder, nofun, fun _ => nofun, fun _ => rfl⟩
  | @wrote n r text outcome world now done =>
    have old := sound.fits n _ now
    have holds : s.lock = some n := old.holder.mp rfl
    refine sound_moved sound now rfl (fun m apart => ⟨nofun, ?_⟩) (fun _ _ => Iff.rfl)
      (fun m apart got => ?_) ⟨old.holder, nofun, fun _ => nofun, fun _ => rfl⟩
    · simpa using Ne.symm apart
    · cases holds.symm.trans got
      exact absurd rfl apart
  | @released n r outcome now =>
    have old := sound.fits n _ now
    have holds : s.lock = some n := old.holder.mp rfl
    refine sound_moved sound now rfl (fun _ _ => ⟨nofun, nofun⟩) (fun m apart => ?_)
      (fun _ _ _ => rfl) ⟨?_, nofun, fun _ => nofun, fun _ => rfl⟩
    · simp [holds, Ne.symm apart]
    · simp [RecordingStage.holdsLock]
  | @cancelled n r stage now going =>
    have old := sound.fits n _ now
    refine sound_moved sound now rfl (fun _ _ => ⟨nofun, nofun⟩) (fun m apart => ?_)
      (fun _ _ _ => rfl) ⟨?_, nofun, fun _ => nofun, fun _ => rfl⟩
    · cases holding : stage.holdsLock with
      | false => simp
      | true => simp [old.holder.mp holding, Ne.symm apart]
    · cases holding : stage.holdsLock with
      | false =>
        have unlocked : s.lock ≠ some n := fun got => by
          have holds := old.holder.mpr got
          simp [holding] at holds
        simp [RecordingStage.holdsLock, unlocked]
      | true => simp [RecordingStage.holdsLock]

theorem ordered_of_acquire {steps : List HistoryStep} {s t : SharedHistory σ ε}
    (ordered : Ordered steps s) {n : Nat} (known : n < s.recordings.length)
    (fresh : n ∉ acquisitions steps) (length : s.recordings.length ≤ t.recordings.length)
    (lock : t.lock = some n) : Ordered (steps ++ [.acquire n]) t := by
  have grown : acquisitions (steps ++ [.acquire n]) = acquisitions steps ++ [n] :=
    HistoryStep.acquisitions_append _ _
  have same : writings (steps ++ [.acquire n]) = writings steps :=
    (HistoryStep.writings_append _ _).trans (List.append_nil _)
  have unwritten : n ∉ writings steps := by
    intro wrote
    rw [ordered.order] at wrote
    exact fresh (List.mem_filter.mp wrote).1
  constructor
  · rw [grown]
    intro m h
    rcases List.mem_append.mp h with h | h
    · exact Nat.lt_of_lt_of_le (ordered.known m h) length
    · rw [List.mem_singleton.mp h]
      exact Nat.lt_of_lt_of_le known length
  · rw [grown]
    rw [← List.concat_eq_append]
    exact ordered.once.concat fresh
  · rw [grown]
    intro m got
    cases lock.symm.trans got
    exact List.getLast?_concat
  · rw [grown, same, List.filter_append, ← ordered.order]
    simp [unwritten]

/-- Who writes has got the lock last. -/
theorem ordered_of_write {steps : List HistoryStep} {s t : SharedHistory σ ε}
    (ordered : Ordered steps s) {n : Nat} (held : s.lock = some n)
    (unwritten : n ∉ writings steps) (length : s.recordings.length ≤ t.recordings.length)
    (lock : t.lock = s.lock) : Ordered (steps ++ [.write n]) t := by
  have same : acquisitions (steps ++ [.write n]) = acquisitions steps :=
    (HistoryStep.acquisitions_append _ _).trans (List.append_nil _)
  have grown : writings (steps ++ [.write n]) = writings steps ++ [n] :=
    HistoryStep.writings_append _ _
  constructor
  · rw [same]
    exact fun m h => Nat.lt_of_lt_of_le (ordered.known m h) length
  · rw [same]
    exact ordered.once
  · rw [same, lock]
    exact ordered.latest
  · obtain ⟨before, split⟩ := List.getLast?_eq_some_iff.mp (ordered.latest n held)
    have once := ordered.once
    rw [split, ← List.concat_eq_append] at once
    have absent : n ∉ before := ((List.nodup_concat _ _).mp once).1
    have order := ordered.order
    rw [split, List.filter_append] at order
    rw [same, grown, split, List.filter_append]
    have earlier : before.filter (· ∈ writings steps ++ [n]) = before.filter (· ∈ writings steps) := by
      refine List.filter_congr fun m hm => ?_
      have apart : m ≠ n := fun eq => absent (eq ▸ hm)
      simp [apart]
    rw [earlier]
    simpa [unwritten] using order

theorem ordered_of_effect {steps : List HistoryStep} {s t : SharedHistory σ ε}
    (sound : Sound slot steps s) (ordered : Ordered steps s) {a : HistoryStep}
    (effect : Effect slot s a t) : Ordered (steps ++ [a]) t := by
  have kept (n : Nat) (stage : RecordingStage ε) :
      s.recordings.length ≤ (s.setStage n stage).recordings.length :=
    Nat.le_of_eq (length_setStage s n stage).symm
  cases effect with
  | arrived r => exact ordered_of_quiet ordered rfl rfl (by simp) fun _ got => got
  | listed => exact ordered_of_quiet ordered rfl rfl (Nat.le_refl _) fun _ got => got
  | @acquired n r now free =>
    have fresh : n ∉ acquisitions steps := fun got =>
      (sound.fits n _ now).acquired (HistoryStep.mem_acquisitions.mp got) rfl
    exact ordered_of_acquire ordered (List.getElem?_eq_some_iff.mp now).1 fresh (kept n _) rfl
  | @loaded n r text now get => exact ordered_of_quiet ordered rfl rfl (kept n _) fun _ got => got
  | @unread n r e now get => exact ordered_of_quiet ordered rfl rfl (kept n _) fun _ got => got
  | @wrote n r text outcome world now done =>
    have fits := sound.fits n _ now
    have unwritten : n ∉ writings steps := fun wrote => by
      cases fits.written (HistoryStep.mem_writings.mp wrote)
    exact ordered_of_write ordered (fits.holder.mp rfl) unwritten (kept n _) rfl
  | @released n r outcome now => exact ordered_of_quiet ordered rfl rfl (kept n _) nofun
  | @cancelled n r stage now going =>
    refine ordered_of_quiet ordered rfl rfl (kept n _) fun m got => ?_
    cases holding : stage.holdsLock with
    | false => simpa [holding] using got
    | true => simp [holding] at got

theorem sound_of_run {start : σ} {steps : List HistoryStep} {s : SharedHistory σ ε}
    (run : Run slot start steps s) : Sound slot steps s ∧ Ordered steps s := by
  induction run with
  | here => exact ⟨sound_start slot start, ordered_start start⟩
  | step a run taken ih =>
    have effect := effect_of_take? taken
    exact ⟨sound_of_effect ih.1 ih.2 effect, ordered_of_effect ih.1 ih.2 effect⟩

end SharedHistory

end IngestViewer
