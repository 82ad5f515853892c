import IngestViewer.IngestView
import IngestViewer.Proofs.DayPhrase

namespace IngestViewer

namespace Timestamp

def IsSpelled (s : String) : Prop := ∃ w : Spelling, w.IsIn s

theorem isSpelled_of_parse {s : String} {t : Instant} (read : parse s = .ok t) : IsSpelled s := by
  obtain ⟨w, spelled, -⟩ := exists_of_parse read
  exact ⟨w, spelled⟩

theorem exists_error_of_not_isSpelled {s : String} (malformed : ¬IsSpelled s) :
    ∃ e, parse s = .error e := by
  cases read : parse s with
  | ok t => exact absurd (isSpelled_of_parse read) malformed
  | error e => exact ⟨e, rfl⟩

instance : DecidablePred IsSpelled := fun s =>
  match read : parse s with
  | .ok _ => isTrue (isSpelled_of_parse read)
  | .error _ => isFalse fun ⟨_, spelled⟩ => nomatch (parse_of_isIn spelled).symm.trans read

end Timestamp

open Timestamp

/-- The clock when it has been read so many times more. -/
def Clock.after (c : Clock) (times : Nat) : Clock := { c with reads := c.reads + times }

namespace TimeFormatter

variable (f : TimeFormatter) {s : String} {e : MalformedTimestamp} {t : Instant}

theorem localize_of_error (malformed : parse s = .error e) (c : Clock) :
    f.localize s c = (.error e, c) := by
  rw [localize, malformed]

theorem deltaSuffix_of_parse (read : parse s = .ok t) (c : Clock) :
    f.deltaSuffix s c = (.ok (suffixOf (f.table.relative (c.now.secondsSince t))), c.tick) := by
  rw [deltaSuffix, relativeDelta, read]
  rfl

end TimeFormatter

namespace IngestRecord

def HasSpelledUpdate (r : IngestRecord) : Prop := ∃ s ∈ r.lastUpdated?, IsSpelled s

instance (r : IngestRecord) : Decidable r.HasSpelledUpdate :=
  inferInstanceAs (Decidable (∃ s ∈ r.lastUpdated?, IsSpelled s))

/-- How often the clock is read for the last update. -/
def updateReads (r : IngestRecord) : Nat := if r.HasSpelledUpdate then 2 else 0

def creationReads (r : IngestRecord) : Nat := if IsSpelled r.createdDate then 1 else 0

/-- The record without any of its dates, those of the events included. -/
def undated (r : IngestRecord) : IngestRecord :=
  { r with
    createdDate := ""
    lastUpdatedDate := none
    events := r.events.map fun e => { e with createdDate := "" } }

end IngestRecord

namespace IngestView

/-- The view without any dates, neither as they are stated nor in words. -/
def undated (v : IngestView) : IngestView :=
  { v with
    createdDate := ""
    createdDisplay := ""
    lastUpdatedDate := none
    lastUpdatedDisplay := ""
    events := v.events.map fun e => { e with createdDate := "" } }

def withDisplays (v : IngestView) (created updated : String) : IngestView :=
  { v with createdDisplay := created, lastUpdatedDisplay := updated }

theorem undated_withDisplays (v : IngestView) (created updated : String) :
    (v.withDisplays created updated).undated = v.undated := rfl

variable (f : TimeFormatter) {s : String} {t now : Instant} {r : IngestRecord}

theorem recentDisplay_of_parse (read : parse s = .ok t) (c : Clock) :
    recentDisplay f s c = (f.phrase c.now t ++
      TimeFormatter.suffixOf (f.table.relative ((c.after 1).now.secondsSince t)), c.after 2) := by
  rw [recentDisplay, f.localize_of_parse read]
  dsimp only
  rw [f.deltaSuffix_of_parse read]
  rfl

theorem display_of_parse (read : parse s = .ok t) (c : Clock) :
    display f s c = (f.phrase c.now t, c.after 1) := by
  rw [display, f.localize_of_parse read]
  rfl

theorem recentDisplay_of_not_isSpelled (malformed : ¬IsSpelled s) (c : Clock) :
    recentDisplay f s c = (unknownDate, c) := by
  obtain ⟨e, read⟩ := exists_error_of_not_isSpelled malformed
  rw [recentDisplay, f.localize_of_error read]

theorem display_of_not_isSpelled (malformed : ¬IsSpelled s) (c : Clock) :
    display f s c = (unknownDate, c) := by
  obtain ⟨e, read⟩ := exists_error_of_not_isSpelled malformed
  rw [display, f.localize_of_error read]

theorem lastUpdatedDisplayOf_of_not_hasSpelledUpdate (malformed : ¬r.HasSpelledUpdate) (c : Clock) :
    lastUpdatedDisplayOf f r.lastUpdated? c = (unknownDate, c) := by
  cases date : r.lastUpdated? with
  | none => rfl
  | some s => exact recentDisplay_of_not_isSpelled f (fun spelled => malformed ⟨s, date, spelled⟩) c

theorem phrase_append_ne_unknownDate (now t : Instant) (suffix : String) :
    f.phrase now t ++ suffix ≠ unknownDate := by
  intro same
  -- whatever words a language has, a mark stands between the day and the time of day
  have mark : '@' ∈ (f.phrase now t ++ suffix).toList := by simp [TimeFormatter.phrase]
  rw [same] at mark
  exact absurd mark (by decide)

theorem clock_lastUpdatedDisplayOf (r : IngestRecord) (c : Clock) :
    (lastUpdatedDisplayOf f r.lastUpdated? c).2 = c.after r.updateReads := by
  by_cases spelled : r.HasSpelledUpdate
  · rw [IngestRecord.updateReads, if_pos spelled]
    obtain ⟨s, date, w, spelled⟩ := spelled
    rw [show r.lastUpdated? = some s from date, lastUpdatedDisplayOf,
      recentDisplay_of_parse f (parse_of_isIn spelled)]
  · rw [lastUpdatedDisplayOf_of_not_hasSpelledUpdate f spelled, IngestRecord.updateReads,
      if_neg spelled]
    rfl

theorem clock_display (r : IngestRecord) (c : Clock) :
    (display f r.createdDate c).2 = c.after r.creationReads := by
  by_cases spelled : IsSpelled r.createdDate
  · rw [IngestRecord.creationReads, if_pos spelled]
    obtain ⟨w, spelled⟩ := spelled
    rw [display_of_parse f (parse_of_isIn spelled)]
  · rw [display_of_not_isSpelled f spelled, IngestRecord.creationReads, if_neg spelled]
    rfl

theorem createdDisplay_compose (r : IngestRecord) (c : Clock) :
    (compose f r c).1.createdDisplay = (display f r.createdDate (c.after r.updateReads)).1 := by
  rw [← clock_lastUpdatedDisplayOf]
  rfl

theorem clock_compose (r : IngestRecord) (c : Clock) :
    (compose f r c).2 = (c.after r.updateReads).after r.creationReads := by
  rw [← clock_display, ← clock_lastUpdatedDisplayOf]
  rfl

theorem lastUpdatedDisplay_compose (date : r.lastUpdated? = some s) (read : parse s = .ok t)
    (c : Clock) : (compose f r c).1.lastUpdatedDisplay = f.phrase c.now t ++
      TimeFormatter.suffixOf (f.table.relative ((c.after 1).now.secondsSince t)) := by
  have shown : (compose f r c).1.lastUpdatedDisplay = (recentDisplay f s c).1 :=
    congrArg (fun date => (lastUpdatedDisplayOf f date c).1) date
  rw [shown, recentDisplay_of_parse f read]

theorem compose_eq (f f' : TimeFormatter) (r : IngestRecord) (c c' : Clock) :
    (compose f' r c').1 = (compose f r c).1.withDisplays (compose f' r c').1.createdDisplay
      (compose f' r c').1.lastUpdatedDisplay := rfl

theorem undated_compose_undated (r : IngestRecord) (c : Clock) :
    (compose f r.undated c).1.undated = (compose f r c).1.undated := by
  have entries : (timeline r.undated.events).map (fun e => { e with createdDate := "" }) =
      (timeline r.events).map fun e => { e with createdDate := "" } := by
    simp only [timeline, IngestRecord.undated, List.map_map]
    rfl
  unfold undated
  rw [show (compose f r.undated c).1.events = timeline r.undated.events from rfl, entries]
  rfl

/-- Apart from its dates a view depends on nothing but the rest of the record. -/
theorem undated_compose {r r' : IngestRecord} (same : r'.undated = r.undated) (f' : TimeFormatter)
    (c c' : Clock) : (compose f' r' c').1.undated = (compose f r c).1.undated :=
  calc (compose f' r' c').1.undated
    _ = (compose f' r'.undated c').1.undated := (undated_compose_undated f' r' c').symm
    _ = (compose f' r.undated c').1.undated := by rw [same]
    _ = (compose f r.undated c).1.undated := by
        rw [compose_eq f f' r.undated c c', undated_withDisplays]
    _ = (compose f r c).1.undated := undated_compose_undated f r c

section still

variable {c c' : Clock} (still : ∀ n, c.shows n = now) (still' : ∀ n, c'.shows n = now)

include still still'

theorem display_of_still (s : String) : (display f s c').1 = (display f s c).1 := by
  by_cases spelled : IsSpelled s
  · obtain ⟨w, spelled⟩ := spelled
    have read := parse_of_isIn spelled
    rw [display_of_parse f read, display_of_parse f read, Clock.now, Clock.now, still, still']
  · rw [display_of_not_isSpelled f spelled, display_of_not_isSpelled f spelled]

theorem recentDisplay_of_still (s : String) :
    (recentDisplay f s c').1 = (recentDisplay f s c).1 := by
  by_cases spelled : IsSpelled s
  · obtain ⟨w, spelled⟩ := spelled
    have read := parse_of_isIn spelled
    rw [recentDisplay_of_parse f read, recentDisplay_of_parse f read]
    simp only [Clock.now, Clock.after, still, still']
  · rw [recentDisplay_of_not_isSpelled f spelled, recentDisplay_of_not_isSpelled f spelled]

end still

/-- What the displays of a record's dates come to, and what they leave alone. -/
structure KeepsDatesApart (f : TimeFormatter) (r : IngestRecord) (c : Clock) : Prop where
  created_unknown : (compose f r c).1.createdDisplay = unknownDate ↔ ¬IsSpelled r.createdDate
  updated_unknown : (compose f r c).1.lastUpdatedDisplay = unknownDate ↔ ¬r.HasSpelledUpdate
  /-- A last update that can be read is told by its moment and its recency together. -/
  updated : ∀ s ∈ r.lastUpdated?, IsSpelled s → ∃ said suffix,
    f.localize s c = (.ok said, c.after 1) ∧
      f.deltaSuffix s (c.after 1) = (.ok suffix, c.after 2) ∧
      (compose f r c).1.lastUpdatedDisplay = said ++ suffix
  created : IsSpelled r.createdDate → ∃ said,
    f.localize r.createdDate (c.after r.updateReads) =
        (.ok said, (c.after r.updateReads).after 1) ∧
      (compose f r c).1.createdDisplay = said
  reads : (compose f r c).2 = (c.after r.updateReads).after r.creationReads
  /-- All else is the same at any time, in any zone and in any language. -/
  rest : ∀ (f' : TimeFormatter) (c' : Clock), (compose f' r c').1 =
    (compose f r c).1.withDisplays (compose f' r c').1.createdDisplay
      (compose f' r c').1.lastUpdatedDisplay
  stated : (compose f r c).1.createdDate = r.createdDate ∧
    (compose f r c).1.lastUpdatedDate = r.lastUpdated? ∧
    (compose f r c).1.events = timeline r.events
  /-- All else is the same whatever the dates are, in any record. -/
  undated : ∀ (r' : IngestRecord) (f' : TimeFormatter) (c' : Clock), r'.undated = r.undated →
    (compose f' r' c').1.undated = (compose f r c).1.undated
  /-- At a clock that stands still no display depends on another date. -/
  created_alone : ∀ (r' : IngestRecord) (c' : Clock) now, (∀ n, c.shows n = now) →
    (∀ n, c'.shows n = now) → r'.createdDate = r.createdDate →
    (compose f r' c').1.createdDisplay = (compose f r c).1.createdDisplay
  updated_alone : ∀ (r' : IngestRecord) (c' : Clock) now, (∀ n, c.shows n = now) →
    (∀ n, c'.shows n = now) → r'.lastUpdated? = r.lastUpdated? →
    (compose f r' c').1.lastUpdatedDisplay = (compose f r c).1.lastUpdatedDisplay

/-- A date that cannot be read has a placeholder, and nothing else is any different. -/
theorem compose_keepsDatesApart (f : TimeFormatter) (r : IngestRecord) (c : Clock) :
    KeepsDatesApart f r c where
  created_unknown := by
    rw [createdDisplay_compose]
    constructor
    · rintro unknown ⟨w, spelled⟩
      rw [display_of_parse f (parse_of_isIn spelled)] at unknown
      exact phrase_append_ne_unknownDate f _ _ "" (by rw [String.append_empty]; exact unknown)
    · intro malformed
      rw [display_of_not_isSpelled f malformed]
  updated_unknown := by
    constructor
    · rintro unknown ⟨s, date, w, spelled⟩
      rw [lastUpdatedDisplay_compose f date (parse_of_isIn spelled)] at unknown
      exact phrase_append_ne_unknownDate f _ _ _ unknown
    · intro malformed
      exact congrArg Prod.fst (lastUpdatedDisplayOf_of_not_hasSpelledUpdate f malformed c)
  updated := by
    rintro s date ⟨w, spelled⟩
    have read := parse_of_isIn spelled
    exact ⟨_, _, f.localize_of_parse read c, f.deltaSuffix_of_parse read _,
      lastUpdatedDisplay_compose f date read c⟩
  created := by
    rintro ⟨w, spelled⟩
    have read := parse_of_isIn spelled
    refine ⟨_, f.localize_of_parse read _, ?_⟩
    rw [createdDisplay_compose, display_of_parse f read]
  reads := clock_compose f r c
  rest := fun f' c' => compose_eq f f' r c c'
  stated := ⟨rfl, rfl, rfl⟩
  undated := fun r' f' c' same => undated_compose f same f' c c'
  created_alone := by
    intro r' c' now still still' same
    -- the clocks may have been read before for another date, and not equally often
    have still : ∀ n, (c.after r.updateReads).shows n = now := still
    have still' : ∀ n, (c'.after r'.updateReads).shows n = now := still'
    rw [createdDisplay_compose, createdDisplay_compose, same, display_of_still f still still']
  updated_alone := by
    intro r' c' now still still' same
    change (lastUpdatedDisplayOf f r'.lastUpdated? c').1 =
      (lastUpdatedDisplayOf f r.lastUpdated? c).1
    rw [same]
    cases r.lastUpdated? with
    | none => rfl
    | some s => exact recentDisplay_of_still f still still' s

end IngestView

end IngestViewer
