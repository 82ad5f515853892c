import IngestViewer.Proofs.ElapsedTime
import IngestViewer.Proofs.TimestampReading
import IngestViewer.TimeFormatter

namespace IngestViewer

/-- How long ago something was, in bands that get wider. -/
inductive Recency where
  | justNow
  | secondsAgo (count : Nat)
  | oneMinuteAgo
  | minutesAgo (count : Nat)
  | longAgo

namespace Recency

/-- What a language says. There are no words for what was long ago. -/
def words (table : PhraseTable) : Recency → String
  | justNow => table.justNow
  | secondsAgo count => countPhrase table.secondsAgo count
  | oneMinuteAgo => table.oneMinuteAgo
  | minutesAgo count => countPhrase table.minutesAgo count
  | longAgo => ""

/-- Whether something was that long ago after so many seconds. What is still to come is no
exception. -/
def Covers : Recency → Int → Prop
  | justNow, n => n < 5
  | secondsAgo count, n => 5 ≤ n ∧ n < 60 ∧ count = n
  | oneMinuteAgo, n => 60 ≤ n ∧ n < 120
  | minutesAgo count, n => 120 ≤ n ∧ n < 3600 ∧ count = n / 60
  | longAgo, n => 3600 ≤ n

/-- The seconds that have passed at the least, or none. -/
def age : Recency → Nat
  | justNow => 0
  | secondsAgo count => count
  | oneMinuteAgo => 60
  | minutesAgo count => 60 * count
  | longAgo => 3600

theorem exists_covers (n : Int) : ∃ r : Recency, r.Covers n := by
  by_cases now : n < 5
  · exact ⟨justNow, now⟩
  by_cases seconds : n < 60
  · exact ⟨secondsAgo n.toNat, by omega, seconds, by omega⟩
  by_cases minute : n < 120
  · exact ⟨oneMinuteAgo, by omega, minute⟩
  by_cases minutes : n < 3600
  · exact ⟨minutesAgo (n / 60).toNat, by omega, minutes, by omega⟩
  · exact ⟨longAgo, by simp only [Covers]; omega⟩

variable {r r' : Recency} {n n' : Int}

theorem age_le_of_covers (covers : r.Covers n) (covers' : r'.Covers n') (le : n' ≤ n) :
    r'.age ≤ r.age := by
  cases r <;> cases r' <;> simp only [Covers] at covers covers' <;> simp only [age] <;> omega

theorem eq_longAgo_iff (covers : r.Covers n) : r = .longAgo ↔ 3600 ≤ n := by
  cases r <;> simp only [Covers] at covers <;> simp <;> omega

theorem relative_of_covers (table : PhraseTable) (covers : r.Covers n) :
    table.relative n = r.words table := by
  unfold PhraseTable.relative
  cases r with
  | justNow =>
    simp only [Covers] at covers
    rw [if_pos covers, words]
  | secondsAgo count =>
    obtain ⟨first, last, same⟩ := covers
    rw [if_neg (by omega), if_pos last, words, ← same, Int.toNat_natCast]
  | oneMinuteAgo =>
    obtain ⟨first, last⟩ := covers
    rw [if_neg (by omega), if_neg (by omega), if_pos last, words]
  | minutesAgo count =>
    obtain ⟨first, last, same⟩ := covers
    rw [if_neg (by omega), if_neg (by omega), if_neg (by omega), if_pos last, words, ← same,
      Int.toNat_natCast]
  | longAgo =>
    simp only [Covers] at covers
    rw [if_neg (by omega), if_neg (by omega), if_neg (by omega), if_neg (by omega), words]

end Recency

/-- Seconds cut toward zero are not told from seconds rounded down. -/
theorem PhraseTable.relative_tdiv (table : PhraseTable) (n : Int) :
    table.relative (n.tdiv 1000000000) = table.relative (n / 1000000000) := by
  by_cases past : 0 ≤ n
  · rw [Int.tdiv_eq_ediv_of_nonneg past]
  · -- the two differ here, but all of this is in one band
    have mirrored : 0 ≤ (-n).tdiv 1000000000 := Int.tdiv_nonneg (by omega) (by decide)
    rw [Int.neg_tdiv] at mirrored
    have down : n / 1000000000 < 0 := by omega
    rw [relative, if_pos (by omega), relative, if_pos (by omega)]

theorem Recency.relative_secondsSince (table : PhraseTable) {now : Instant} {w : Timestamp.Spelling}
    {r : Recency} (plain : w.second.val ≠ 60) (covers : r.Covers (now.secondsFrom w)) :
    table.relative (now.secondsSince w.instant) = r.words table := by
  rw [Instant.secondsSince, table.relative_tdiv, Instant.nanosSince_ediv plain]
  exact relative_of_covers table covers

namespace TimeFormatter

theorem relativeDelta_of_covers (f : TimeFormatter) {c : Clock} {timestamp : String}
    {w : Timestamp.Spelling} {r : Recency} (spelled : w.IsIn timestamp) (plain : w.second.val ≠ 60)
    (covers : r.Covers (c.now.secondsFrom w)) :
    f.relativeDelta timestamp c = (.ok (r.words f.table), c.tick) := by
  have said := Recency.relative_secondsSince f.table plain covers
  rw [relativeDelta, Timestamp.parse_of_isIn spelled]
  dsimp only
  rw [said]

/-- The phrase for a timestamp is that of the band of the seconds that are counted, which are those
that have passed, rounded down, if the fraction has no more than nine digits and no second is lost.
At one reading of the clock no later timestamp has an older phrase, unless a second is lost from the
earlier one only. -/
theorem relativeDelta_tellsRecency (f : TimeFormatter) (c : Clock) {timestamp : String}
    {w : Timestamp.Spelling} (spelled : w.IsIn timestamp) (plain : w.second.val ≠ 60) :
    ∃ r : Recency, r.Covers (c.now.secondsFrom w) ∧
      f.relativeDelta timestamp c = (.ok (r.words f.table), c.tick) ∧
      (w.fraction.length ≤ 9 → ¬c.now.LosesSecond w.instant →
        c.now.secondsFrom w = ⌊c.now.moment - w.moment⌋) ∧
      ∀ timestamp' (w' : Timestamp.Spelling), w'.IsIn timestamp' → w'.second.val ≠ 60 →
        w.instant ≤ w'.instant → (c.now.LosesSecond w.instant → c.now.LosesSecond w'.instant) →
        ∃ r' : Recency, r'.Covers (c.now.secondsFrom w') ∧
          f.relativeDelta timestamp' c = (.ok (r'.words f.table), c.tick) ∧ r'.age ≤ r.age := by
  obtain ⟨r, covers⟩ := Recency.exists_covers (c.now.secondsFrom w)
  refine ⟨r, covers, f.relativeDelta_of_covers spelled plain covers, Instant.secondsFrom_eq_floor, ?_⟩
  intro timestamp' w' spelled' plain' later lost
  obtain ⟨r', covers'⟩ := Recency.exists_covers (c.now.secondsFrom w')
  exact ⟨r', covers', f.relativeDelta_of_covers spelled' plain' covers',
    Recency.age_le_of_covers covers covers' (Instant.secondsFrom_le plain plain' later lost)⟩

/-- A German reader in universal time. -/
def german : TimeFormatter := ⟨.builtin, "de_AT.UTF-8", .fixed 0⟩

/-- Half a second into the last hour of 2016. -/
def lastHourSpelling : Timestamp.Spelling :=
  .ofInstant ⟨1483225200, 500000000⟩ .capital
    { year_nonneg := by decide +kernel
      year_le := by decide +kernel
      nanos_lt := by decide
      leap := by decide }

/-- Three quarters of a second into 2017. -/
def nextYearSpelling : Timestamp.Spelling :=
  .ofInstant ⟨1483228800, 750000000⟩ .capital
    { year_nonneg := by decide +kernel
      year_le := by decide +kernel
      nanos_lt := by decide
      leap := by decide }

/-- In the leap second at the end of 2016 a quarter of a second is left of an hour, and what comes
half a second later has just happened. -/
theorem relativeDelta_in_leap_second :
    let now : Instant := ⟨1483228799, 1250000000⟩
    lastHourSpelling.IsIn "2016-12-31T23:00:00.500000000Z" ∧
      nextYearSpelling.IsIn " 2017-01-01T00:00:00.750000000Z" ∧
      now.secondsFrom lastHourSpelling = 3599 ∧ now.secondsFrom nextYearSpelling = -1 ∧
      german.relativeDelta "2016-12-31T23:00:00.500000000Z" (.still now) =
        (.ok "vor 59 Minuten", (Clock.still now).tick) ∧
      german.relativeDelta " 2017-01-01T00:00:00.750000000Z" (.still now) =
        (.ok "gerade eben", (Clock.still now).tick) := by
  intro now
  have spelled : lastHourSpelling.IsIn "2016-12-31T23:00:00.500000000Z" :=
    ⟨[], [], nofun, nofun, by decide⟩
  have spelled' : nextYearSpelling.IsIn " 2017-01-01T00:00:00.750000000Z" :=
    ⟨[' '], [], by simp [isBlank], nofun, by decide⟩
  have order : lastHourSpelling.instant ≤ nextYearSpelling.instant := .inl (by decide)
  have seconds : now.secondsFrom lastHourSpelling = 3599 := by decide +kernel
  have seconds' : now.secondsFrom nextYearSpelling = -1 := by decide +kernel
  obtain ⟨r, covers, told, -, later⟩ :=
    german.relativeDelta_tellsRecency (.still now) spelled (by decide)
  obtain ⟨r', covers', told', -⟩ := later _ _ spelled' (by decide) order (by decide)
  have said : r.words german.table = "vor 59 Minuten" := by
    rw [← Recency.relative_of_covers german.table covers]
    decide +kernel
  have said' : r'.words german.table = "gerade eben" := by
    rw [← Recency.relative_of_covers german.table covers']
    decide +kernel
  rw [said] at told
  rw [said'] at told'
  exact ⟨spelled, spelled', seconds, seconds', told, told'⟩

def lastMinuteSpelling : Timestamp.Spelling :=
  .ofInstant ⟨86340, 0⟩ .capital
    { year_nonneg := by decide +kernel
      year_le := by decide +kernel
      nanos_lt := by decide
      leap := by decide }

/-- The tenth part of a nanosecond behind the first moment of 1970. -/
def tenthDigitSpelling : Timestamp.Spelling :=
  let midnight : Timestamp.Spelling := .ofInstant ⟨0, 0⟩ .capital
    { year_nonneg := by decide +kernel
      year_le := by decide +kernel
      nanos_lt := by decide
      leap := by decide }
  { midnight with fraction := Timestamp.digitsOf 10 1 }

theorem relativeDelta_other_than_elapsed :
    let soon : Instant := ⟨5, 0⟩
    let leap : Instant := ⟨87059, 1200000000⟩
    (tenthDigitSpelling.IsIn "1970-01-01T00:00:00.0000000001Z" ∧
      ⌊soon.moment - tenthDigitSpelling.moment⌋ = 4 ∧ Recency.justNow.Covers 4 ∧
      german.relativeDelta "1970-01-01T00:00:00.0000000001Z" (.still soon) =
        (.ok "vor 5 Sekunden", (Clock.still soon).tick)) ∧
    lastMinuteSpelling.IsIn "1970-01-01T23:59:00.000000000Z" ∧
      ⌊leap.moment - lastMinuteSpelling.moment⌋ = 720 ∧ (Recency.minutesAgo 12).Covers 720 ∧
      german.relativeDelta "1970-01-01T23:59:00.000000000Z" (.still leap) =
        (.ok "vor 11 Minuten", (Clock.still leap).tick) := by
  intro soon leap
  have spelled : tenthDigitSpelling.IsIn "1970-01-01T00:00:00.0000000001Z" :=
    ⟨[], [], nofun, nofun, by decide +kernel⟩
  have spelled' : lastMinuteSpelling.IsIn "1970-01-01T23:59:00.000000000Z" :=
    ⟨[], [], nofun, nofun, by decide +kernel⟩
  have counted : soon.secondsFrom tenthDigitSpelling = 5 := by decide +kernel
  have counted' : leap.secondsFrom lastMinuteSpelling = 719 := by decide +kernel
  have told := german.relativeDelta_of_covers (c := .still soon) spelled (by decide)
    (show (Recency.secondsAgo 5).Covers (soon.secondsFrom _) by rw [counted]; simp [Recency.Covers])
  have told' := german.relativeDelta_of_covers (c := .still leap) spelled' (by decide)
    (show (Recency.minutesAgo 11).Covers (leap.secondsFrom _) by
      rw [counted']; simp [Recency.Covers])
  have said : (Recency.secondsAgo 5).words german.table = "vor 5 Sekunden" := by decide +kernel
  have said' : (Recency.minutesAgo 11).words german.table = "vor 11 Minuten" := by decide +kernel
  rw [said] at told
  rw [said'] at told'
  exact ⟨⟨spelled, by decide +kernel, by simp [Recency.Covers], told⟩, spelled', by decide +kernel,
    by simp [Recency.Covers], told'⟩

end TimeFormatter

end IngestViewer
