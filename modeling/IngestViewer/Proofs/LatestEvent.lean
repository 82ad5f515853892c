import IngestViewer.Proofs.SpellingOrder
import IngestViewer.Proofs.TimestampReading
import Mathlib.Control.Monad.Basic

namespace IngestViewer

open Timestamp

def IsTimestamp (date : String) : Prop := ∃ t, parse date = .ok t

/-- Whether all dates that are timestamps are spelled in a style, with no blanks around them, and
each other date comes before one of them as a text. -/
structure AreSpelledIn (style : Style) (dates : List String) : Prop where
  spelled : ∀ date ∈ dates, IsTimestamp date →
    ∃ w : Spelling, date.toList = w.text ∧ w.HasStyle style
  outdone : ∀ date ∈ dates, ¬IsTimestamp date →
    ∃ other ∈ dates, IsTimestamp other ∧ NotBehind date.toList other.toList

theorem parse_of_bare {w : Spelling} {date : String} (bare : date.toList = w.text) :
    parse date = .ok w.instant :=
  parse_of_isIn ⟨[], [], nofun, nofun, by simpa using bare⟩

namespace IngestRecord

def eventDates (r : IngestRecord) : List String := r.events.map (·.createdDate)

/-- Whether a date is that of an event, and the latest moment of all events. -/
def IsLatest (r : IngestRecord) (date : String) : Prop :=
  date ∈ r.eventDates ∧ ∃ t, parse date = .ok t ∧
    ∀ other ∈ r.eventDates, ∀ u, parse other = .ok u → u ≤ t

/-- Whether a date is that of an event, and the greatest text of all events. -/
def IsGreatest (r : IngestRecord) (date : String) : Prop :=
  date ∈ r.eventDates ∧ ∀ other ∈ r.eventDates, NotBehind other.toList date.toList

variable {r : IngestRecord}

theorem lastUpdated?_of_absent
    (absent : r.lastUpdatedDate = none ∨ r.lastUpdatedDate = some "") :
    r.lastUpdated? = greatest? r.eventDates := by
  rcases absent with absent | absent <;> rw [lastUpdated?, absent] <;> rfl

/-- Among dates in one style the greatest text is the latest moment. -/
theorem isLatest_of_isGreatest {style : Style} {date : String}
    (alike : AreSpelledIn style r.eventDates) (greatest : r.IsGreatest date) : r.IsLatest date := by
  obtain ⟨mem, least⟩ := greatest
  have isTimestamp : IsTimestamp date := by
    apply Classical.byContradiction
    intro malformed
    obtain ⟨other, otherMem, isTimestamp, notBehind⟩ := alike.outdone date mem malformed
    have same : date = other := String.toList_inj.mp (notBehind.antisymm (least other otherMem))
    exact malformed (same ▸ isTimestamp)
  obtain ⟨w, bare, style⟩ := alike.spelled date mem isTimestamp
  refine ⟨mem, w.instant, parse_of_bare bare, fun other otherMem u read => ?_⟩
  obtain ⟨w', bare', style'⟩ := alike.spelled other otherMem ⟨u, read⟩
  rw [parse_of_bare bare'] at read
  cases read
  have notBehind := least other otherMem
  rw [bare, bare'] at notBehind
  exact Spelling.instant_le_of_notBehind style' style notBehind

/-- Without a stated date of the last update the greatest date of an event stands for it, compared as
a text. This is the latest moment if the events' timestamps are spelled in one style. -/
theorem lastUpdated?_is_greatest
    (absent : r.lastUpdatedDate = none ∨ r.lastUpdatedDate = some "") :
    (r.lastUpdated? = none ↔ r.events = []) ∧
      (∀ date, r.lastUpdated? = some date → r.IsGreatest date) ∧
      ∀ style, AreSpelledIn style r.eventDates → (∃ date ∈ r.eventDates, IsTimestamp date) →
        ∃ date, r.lastUpdated? = some date ∧ r.IsLatest date := by
  rw [lastUpdated?_of_absent absent]
  refine ⟨?_, fun date found => greatest?_eq_some found, fun style alike some => ?_⟩
  · rw [greatest?_eq_none, eventDates, List.map_eq_nil_iff]
  · obtain ⟨date, mem, -⟩ := some
    cases found : greatest? r.eventDates with
    | none =>
      rw [greatest?_eq_none.mp found] at mem
      cases mem
    | some greatest => exact ⟨greatest, rfl, isLatest_of_isGreatest alike (greatest?_eq_some found)⟩

/-- A record with nothing but the dates of its events. -/
def ofEventDates (dates : List String) : IngestRecord where
  id := ⟨"a"⟩
  space := "digitised"
  externalIdentifier := "b1"
  status := .processing
  createdDate := ""
  environment := .production
  events := dates.map fun date => { createdDate := date, description := "" }

/-- The morning of a day, two hours ahead of universal time. -/
def morning (fraction : List (Fin 10)) : Spelling where
  date := ⟨2026, ⟨9, by decide⟩, 14⟩
  real := ⟨by decide, by decide⟩
  year_nonneg := by decide
  year_le := by decide
  separator := .capital
  hour := ⟨9, by decide⟩
  minute := ⟨10, by decide⟩
  second := ⟨0, by decide⟩
  fraction := fraction
  offset := .signed .plus ⟨2, by decide⟩ ⟨0, by decide⟩

theorem lastUpdated?_of_one_style :
    let r := ofEventDates ["2026-10-14T09:10:00.5+02:00", "", "2026-10-14T09:10:00+02:00"]
    r.lastUpdatedDate = none ∧ AreSpelledIn ⟨.capital, .signed .plus 2 0, 0⟩ r.eventDates ∧
      r.lastUpdated? = some "2026-10-14T09:10:00.5+02:00" ∧
      r.IsLatest "2026-10-14T09:10:00.5+02:00" := by
  intro r
  have half : "2026-10-14T09:10:00.5+02:00".toList = (morning [5]).text := by decide
  have whole : "2026-10-14T09:10:00+02:00".toList = (morning []).text := by decide
  have low : BeginsLow (Offset.signed .plus 2 0).text := show '+'.toNat < 46 by decide
  have alike : AreSpelledIn ⟨.capital, .signed .plus 2 0, 0⟩ r.eventDates := by
    constructor
    · intro date mem isTimestamp
      simp only [r, ofEventDates, eventDates, List.map_cons, List.map_nil, List.mem_cons,
        List.not_mem_nil, or_false] at mem
      rcases mem with rfl | rfl | rfl
      · exact ⟨morning [5], half, rfl, rfl, .inr low⟩
      · obtain ⟨t, read⟩ := isTimestamp
        cases read
      · exact ⟨morning [], whole, rfl, rfl, .inr low⟩
    · intro date mem malformed
      refine ⟨"2026-10-14T09:10:00.5+02:00", .head _, ⟨_, parse_of_bare half⟩, ?_⟩
      simp only [r, ofEventDates, eventDates, List.map_cons, List.map_nil, List.mem_cons,
        List.not_mem_nil, or_false] at mem
      rcases mem with rfl | rfl | rfl
      · exact absurd ⟨_, parse_of_bare half⟩ malformed
      · trivial
      · exact absurd ⟨_, parse_of_bare whole⟩ malformed
  obtain ⟨-, -, latest⟩ := lastUpdated?_is_greatest (r := r) (.inl rfl)
  obtain ⟨date, found, isLatest⟩ := latest _ alike ⟨_, .head _, _, parse_of_bare half⟩
  have greatest : r.lastUpdated? = some "2026-10-14T09:10:00.5+02:00" := by decide
  rw [greatest] at found
  cases found
  exact ⟨rfl, alike, greatest, isLatest⟩

/-- Across offsets the greatest text may be an earlier moment. -/
theorem lastUpdated?_across_offsets :
    let r := ofEventDates ["2026-10-14T11:00:00+02:00", "2026-10-14T10:30:00Z"]
    r.lastUpdatedDate = none ∧ (∀ date ∈ r.eventDates, IsTimestamp date) ∧
      r.lastUpdated? = some "2026-10-14T11:00:00+02:00" ∧
      ¬r.IsLatest "2026-10-14T11:00:00+02:00" := by
  intro r
  have earlier : parse "2026-10-14T11:00:00+02:00" = .ok ⟨1791968400, 0⟩ := by decide +kernel
  have later : parse "2026-10-14T10:30:00Z" = .ok ⟨1791973800, 0⟩ := by decide +kernel
  refine ⟨rfl, ?_, by decide, ?_⟩
  · intro date mem
    simp only [r, ofEventDates, eventDates, List.map_cons, List.map_nil, List.mem_cons,
      List.not_mem_nil, or_false] at mem
    rcases mem with rfl | rfl
    · exact ⟨_, earlier⟩
    · exact ⟨_, later⟩
  · rintro ⟨-, t, read, latest⟩
    rw [earlier] at read
    cases read
    have le := latest "2026-10-14T10:30:00Z" (.tail _ (.head _)) _ later
    simp [Instant.le_def] at le

end IngestRecord

end IngestViewer
