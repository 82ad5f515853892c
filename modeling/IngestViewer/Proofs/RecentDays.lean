import IngestViewer.Proofs.DateDisplays
import IngestViewer.Proofs.Recency
import Mathlib.Data.Fintype.Basic
import Mathlib.Tactic.FinCases

namespace IngestViewer

open Timestamp

namespace PhraseTable.IsBuiltin

variable {table : PhraseTable} (builtin : table.IsBuiltin)

include builtin

theorem words_eq_empty_iff (r : Recency) : r.words table = "" ↔ r = .longAgo := by
  rcases builtin with rfl | rfl <;> cases r <;>
    simp [Recency.words, countPhrase, fillPlaceholder, english, german]

theorem head?_formatDate (day : Int) (rest : String) :
    ∃ c, (table.formatDate day ++ rest).toList.head? = some c ∧ c.isUpper = true := by
  have weekday : ∃ c, (table.weekdays (Date.weekday day)).toList.head? = some c ∧
      c.isUpper = true := by
    generalize Date.weekday day = i
    rcases builtin with rfl | rfl <;> fin_cases i <;> exact ⟨_, rfl, rfl⟩
  obtain ⟨c, first, upper⟩ := weekday
  refine ⟨c, ?_, upper⟩
  unfold formatDate
  split <;> simp [first]

theorem head?_recentDay {near : String} (words : near = table.today ∨ near = table.yesterday)
    (rest : String) : ∃ c, (near ++ rest).toList.head? = some c ∧ c.isUpper = false := by
  rcases words with rfl | rfl
  · rcases builtin with rfl | rfl
    · exact ⟨'t', by simp [english], rfl⟩
    · exact ⟨'h', by simp [german], rfl⟩
  · rcases builtin with rfl | rfl
    · exact ⟨'y', by simp [english], rfl⟩
    · exact ⟨'g', by simp [german], rfl⟩

/-- A full date begins with a capital letter, and the words for the last two days do not. -/
theorem recentDay_ne_formatDate {near : String}
    (words : near = table.today ∨ near = table.yesterday) (day : Int) (rest rest' : String) :
    near ++ rest ≠ table.formatDate day ++ rest' := by
  intro same
  obtain ⟨capital, first, upper⟩ := builtin.head?_formatDate day rest'
  obtain ⟨small, first', lower⟩ := builtin.head?_recentDay words rest
  rw [same, first] at first'
  cases first'
  rw [upper] at lower
  cases lower

end PhraseTable.IsBuiltin

namespace TimeFormatter

theorem suffixOf_eq_empty_iff (phrase : String) : suffixOf phrase = "" ↔ phrase = "" := by
  unfold suffixOf
  split
  next empty => simp [empty]
  next some => simp [some]

/-- At a fixed offset what is not counted as an hour old lies in the day of the clock or in the day
before. -/
theorem dayOf_of_recent {zone : Zone} {offset : Int} (fixed : zone = .fixed offset)
    {now : Instant} {w : Spelling} (plain : w.second.val ≠ 60) (past : w.instant ≤ now)
    (recent : now.secondsFrom w < 3600) :
    zone.dayOf w.instant = zone.dayOf now ∨ zone.dayOf w.instant = zone.dayOf now - 1 := by
  have small := Spelling.nanos_lt plain
  rw [Instant.le_def] at past
  have order : w.instant.seconds ≤ now.seconds := by omega
  have within : now.seconds - w.instant.seconds ≤ 3601 := by
    rw [Instant.secondsFrom, Spelling.moment_cut plain, Instant.floor_moment_sub] at recent
    split at recent <;> omega
  subst fixed
  -- the offset moves both moments, and an hour crosses no more than one midnight
  simp only [Zone.dayOf, Zone.fixed]
  omega

structure GoesWithRecency (f : TimeFormatter) (now : Instant) (w : Spelling)
    (said suffix : String) : Prop where
  suffix_iff : suffix = "" ↔ 3600 ≤ now.secondsFrom w
  /-- What is counted are the seconds that have passed, rounded down. -/
  exact_iff : w.fraction.length ≤ 9 → ¬now.LosesSecond w.instant →
    (suffix = "" ↔ 3600 ≤ ⌊now.moment - w.moment⌋)
  near : suffix ≠ "" →
    f.zone.dayOf w.instant = f.zone.dayOf now ∧
        said = f.table.today ++ " @ " ++
          f.table.formatTime (.ofInstant (f.zone w.instant) w.instant) ∨
      f.zone.dayOf w.instant = f.zone.dayOf now - 1 ∧
        said = f.table.yesterday ++ " @ " ++
          f.table.formatTime (.ofInstant (f.zone w.instant) w.instant)
  /-- No full date stands in front of a suffix. -/
  apart : suffix ≠ "" → ∀ day rest, said ++ suffix ≠ f.table.formatDate day ++ rest

theorem goesWithRecency {f : TimeFormatter} {offset : Int} (fixed : f.zone = .fixed offset)
    (builtin : f.table.IsBuiltin) {now : Instant} {w : Spelling} (plain : w.second.val ≠ 60)
    (past : w.instant ≤ now) {r : Recency} (covers : r.Covers (now.secondsFrom w)) :
    f.GoesWithRecency now w (f.phrase now w.instant) (suffixOf (r.words f.table)) := by
  have told := f.tellsDay_phrase now w.instant
  have suffix : suffixOf (r.words f.table) = "" ↔ 3600 ≤ now.secondsFrom w := by
    rw [suffixOf_eq_empty_iff, builtin.words_eq_empty_iff, Recency.eq_longAgo_iff covers]
  have near (recent : suffixOf (r.words f.table) ≠ "") :=
    dayOf_of_recent fixed plain past (Int.lt_of_not_ge (mt suffix.mpr recent))
  refine ⟨suffix, fun short kept => ?_, fun recent => ?_, fun recent day rest same => ?_⟩
  · rw [suffix, Instant.secondsFrom_eq_floor short kept]
  · rcases near recent with today | yesterday
    · exact .inl ⟨today, told.today today⟩
    · exact .inr ⟨yesterday, told.yesterday yesterday⟩
  · rcases near recent with today | yesterday
    · rw [told.today today, String.append_assoc, String.append_assoc] at same
      exact builtin.recentDay_ne_formatDate (.inl rfl) day _ rest same
    · rw [told.yesterday yesterday, String.append_assoc, String.append_assoc] at same
      exact builtin.recentDay_ne_formatDate (.inr rfl) day _ rest same

/-- At a clock that stands still a recency is told of today and yesterday only, and of all that is
not counted as an hour old. -/
theorem recency_goes_with_day (f : TimeFormatter) {offset : Int} (fixed : f.zone = .fixed offset)
    (builtin : f.table.IsBuiltin) {c : Clock} {now : Instant} (still : ∀ n, c.shows n = now)
    {timestamp : String} {w : Spelling} (spelled : w.IsIn timestamp) (plain : w.second.val ≠ 60)
    (past : w.instant ≤ now) :
    ∃ said suffix, f.localize timestamp c = (.ok said, c.tick) ∧
      f.deltaSuffix timestamp c = (.ok suffix, c.tick) ∧
      f.GoesWithRecency now w said suffix ∧
      ∀ r : IngestRecord, r.lastUpdated? = some timestamp →
        (IngestView.compose f r c).1.lastUpdatedDisplay = said ++ suffix := by
  have read := parse_of_isIn spelled
  have first : c.now = now := still _
  have second : (c.after 1).now = now := still _
  obtain ⟨r, covers⟩ := Recency.exists_covers (now.secondsFrom w)
  have phrase := Recency.relative_secondsSince f.table plain covers
  refine ⟨_, _, f.localize_of_parse read c, f.deltaSuffix_of_parse read c, ?_, fun r date => ?_⟩
  · rw [first, phrase]
    exact goesWithRecency fixed builtin plain past covers
  · rw [IngestView.lastUpdatedDisplay_compose f date read c, first, second]

/-- An English reader five hours and three quarters ahead of universal time. -/
def farEast : TimeFormatter := ⟨.builtin, "en_GB", .fixed 20700⟩

/-- Twenty past eleven at night by that reader's clock, on the last day of a February. -/
def leapDayEvening : Spelling :=
  .ofInstant ⟨1709228100, 500000000⟩ .capital
    { year_nonneg := by decide +kernel
      year_le := by decide +kernel
      nanos_lt := by decide
      leap := by decide }

def updatedAt (date : String) : IngestRecord where
  id := ⟨"a"⟩
  space := "digitised"
  externalIdentifier := "b1"
  status := .processing
  createdDate := ""
  lastUpdatedDate := some date
  environment := .production

/-- Twenty minutes into March the evening of the 29th of February was yesterday. -/
theorem recency_across_leap_day :
    let now : Instant := ⟨1709231700, 0⟩
    let r := updatedAt "2024-02-29T17:35:00.500000000Z"
    farEast.table.IsBuiltin ∧ leapDayEvening.IsIn "2024-02-29T17:35:00.500000000Z" ∧
      leapDayEvening.instant ≤ now ∧ now.secondsFrom leapDayEvening = 3599 ∧
      (IngestView.compose farEast r (.still now)).1.lastUpdatedDisplay =
        "yesterday @ 11:20 PM UTC+5:45 (59 minutes ago)" := by
  intro now r
  have builtin : farEast.table.IsBuiltin := .inl rfl
  have spelled : leapDayEvening.IsIn "2024-02-29T17:35:00.500000000Z" :=
    ⟨[], [], nofun, nofun, by decide⟩
  have past : leapDayEvening.instant ≤ now := .inl (by decide)
  have counted : now.secondsFrom leapDayEvening = 3599 := by decide +kernel
  have otherDay : farEast.zone.dayOf leapDayEvening.instant ≠ farEast.zone.dayOf now := by decide
  obtain ⟨said, suffix, told, recent, goes, shown⟩ :=
    farEast.recency_goes_with_day rfl builtin (c := .still now) (fun _ => rfl) spelled
      (by decide) past
  have there : suffix ≠ "" := by
    rw [Ne, goes.suffix_iff, counted]
    decide
  have yesterday := (goes.near there).resolve_left fun today => otherDay today.1
  rw [farEast.deltaSuffix_of_parse (parse_of_isIn spelled)] at recent
  cases recent
  refine ⟨builtin, spelled, past, counted, ?_⟩
  rw [shown r rfl, yesterday.2]
  decide +kernel

def lateEveningSpelling : Spelling :=
  .ofInstant ⟨83460, 0⟩ .capital
    { year_nonneg := by decide +kernel
      year_le := by decide +kernel
      nanos_lt := by decide
      leap := by decide }

/-- A fraction of ten digits has no suffix before an hour has passed, and in a leap second what is an
hour old still has one. -/
theorem deltaSuffix_other_than_elapsed :
    let hour : Instant := ⟨3600, 0⟩
    let leap : Instant := ⟨87059, 1200000000⟩
    farEast.table.IsBuiltin ∧
    (tenthDigitSpelling.IsIn "1970-01-01T00:00:00.0000000001Z" ∧
      tenthDigitSpelling.instant ≤ hour ∧ ⌊hour.moment - tenthDigitSpelling.moment⌋ = 3599 ∧
      farEast.deltaSuffix "1970-01-01T00:00:00.0000000001Z" (.still hour) =
        (.ok "", (Clock.still hour).tick)) ∧
    lateEveningSpelling.IsIn "1970-01-01T23:11:00.000000000Z" ∧
      lateEveningSpelling.instant ≤ leap ∧ ⌊leap.moment - lateEveningSpelling.moment⌋ = 3600 ∧
      farEast.deltaSuffix "1970-01-01T23:11:00.000000000Z" (.still leap) =
        (.ok " (59 minutes ago)", (Clock.still leap).tick) := by
  intro hour leap
  have spelled : tenthDigitSpelling.IsIn "1970-01-01T00:00:00.0000000001Z" :=
    ⟨[], [], nofun, nofun, by decide +kernel⟩
  have spelled' : lateEveningSpelling.IsIn "1970-01-01T23:11:00.000000000Z" :=
    ⟨[], [], nofun, nofun, by decide +kernel⟩
  have told : suffixOf (farEast.table.relative (hour.secondsSince tenthDigitSpelling.instant)) =
      "" := by decide +kernel
  have told' : suffixOf (farEast.table.relative (leap.secondsSince lateEveningSpelling.instant)) =
      " (59 minutes ago)" := by decide +kernel
  refine ⟨.inl rfl, ⟨spelled, .inl (by decide +kernel), by decide +kernel, ?_⟩, spelled',
    .inl (by decide +kernel), by decide +kernel, ?_⟩
  · rw [farEast.deltaSuffix_of_parse (parse_of_isIn spelled), ← told]
    rfl
  · rw [farEast.deltaSuffix_of_parse (parse_of_isIn spelled'), ← told']
    rfl

end TimeFormatter

end IngestViewer
