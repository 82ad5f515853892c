import IngestViewer.Proofs.TimestampReading
import IngestViewer.TimeFormatter

namespace IngestViewer

/-- The number of the day that a moment lies in, by the offset at that moment. -/
def Zone.dayOf (zone : Zone) (t : Instant) : Int :=
  (t.seconds + zone t) / 86400

theorem LocalTime.date_inZone (zone : Zone) (t : Instant) :
    (inZone zone t).date = Date.ofDayNumber (zone.dayOf t) := rfl

namespace TimeFormatter

/-- The day before is told apart by the calendar, and that is by its number. -/
theorem date_eq_previous_iff (zone : Zone) (now t : Instant) :
    (LocalTime.inZone zone t).date = (LocalTime.inZone zone now).date.previous ↔
      zone.dayOf t = zone.dayOf now - 1 := by
  rw [LocalTime.date_inZone, LocalTime.date_inZone, Date.previous_ofDayNumber, Date.ofDayNumber_inj]

/-- Whether a text tells the time of a moment and its day as the numbers of the days have it. -/
structure TellsDay (f : TimeFormatter) (now t : Instant) (said : String) : Prop where
  today : f.zone.dayOf t = f.zone.dayOf now →
    said = f.table.today ++ " @ " ++ f.table.formatTime (.ofInstant (f.zone t) t)
  yesterday : f.zone.dayOf t = f.zone.dayOf now - 1 →
    said = f.table.yesterday ++ " @ " ++ f.table.formatTime (.ofInstant (f.zone t) t)
  /-- Earlier days, and all days to come. -/
  other : f.zone.dayOf t ≠ f.zone.dayOf now → f.zone.dayOf t ≠ f.zone.dayOf now - 1 →
    said = f.table.formatDate (f.zone.dayOf t) ++ " @ " ++
      f.table.formatTime (.ofInstant (f.zone t) t)

theorem tellsDay_phrase (f : TimeFormatter) (now t : Instant) :
    f.TellsDay now t (f.phrase now t) := by
  have same : (LocalTime.inZone f.zone t).date = (LocalTime.inZone f.zone now).date ↔
      f.zone.dayOf t = f.zone.dayOf now := Date.ofDayNumber_inj
  have before := date_eq_previous_iff f.zone now t
  refine ⟨fun today => ?_, fun yesterday => ?_, fun notToday notYesterday => ?_⟩
  · rw [phrase, if_pos (same.mpr today)]
    rfl
  · have notToday : f.zone.dayOf t ≠ f.zone.dayOf now := by omega
    rw [phrase, if_neg (mt same.mp notToday), if_pos (before.mpr yesterday)]
    rfl
  · rw [phrase, if_neg (mt same.mp notToday), if_neg (mt before.mp notYesterday)]
    rfl

/-- Only one text tells the day of a moment, and it is the same all through the day that the clock
shows. -/
theorem TellsDay.eq {f : TimeFormatter} {now now' t : Instant} {said said' : String}
    (h : f.TellsDay now t said) (h' : f.TellsDay now' t said')
    (day : f.zone.dayOf now' = f.zone.dayOf now) : said' = said := by
  by_cases today : f.zone.dayOf t = f.zone.dayOf now
  · rw [h.today today, h'.today (today.trans day.symm)]
  · by_cases yesterday : f.zone.dayOf t = f.zone.dayOf now - 1
    · rw [h.yesterday yesterday, h'.yesterday (by rw [day, yesterday])]
    · rw [h.other today yesterday, h'.other (day.symm ▸ today) (day.symm ▸ yesterday)]

theorem localize_of_parse (f : TimeFormatter) {timestamp : String} {t : Instant}
    (read : Timestamp.parse timestamp = .ok t) (c : Clock) :
    f.localize timestamp c = (.ok (f.phrase c.now t), c.tick) := by
  rw [localize, read]

/-- Every timestamp is told by its time and, at one reading of the clock, by the day it lies in:
today, yesterday, or else its date. Each moment has the offset of its own, and nothing counts but
the numbers of the two days. -/
theorem localize_tellsDay (f : TimeFormatter) {timestamp : String} {w : Timestamp.Spelling}
    (spelled : w.IsIn timestamp) (c : Clock) :
    (∃ said, f.localize timestamp c = (.ok said, c.tick) ∧ f.TellsDay c.now w.instant said) ∧
      ∀ c' : Clock, f.zone.dayOf c'.now = f.zone.dayOf c.now →
        (f.localize timestamp c').1 = (f.localize timestamp c).1 := by
  have read := Timestamp.parse_of_isIn spelled
  have tells (now : Instant) := f.tellsDay_phrase now w.instant
  refine ⟨⟨_, f.localize_of_parse read c, tells c.now⟩, fun c' day => ?_⟩
  rw [f.localize_of_parse read c, f.localize_of_parse read c', (tells c.now).eq (tells c'.now) day]

/-- A German reader whose clock is an hour behind for the first hours of year 0 and then is not. -/
def firstHours : TimeFormatter :=
  ⟨.builtin, "de-DE", .stepwise (-3600) [(-62167200000000, 0)]⟩

/-- Half an hour into year 0. -/
def newYearSpelling : Timestamp.Spelling :=
  .ofInstant ⟨-62167217400, 0⟩ .capital
    { year_nonneg := by decide +kernel
      year_le := by decide +kernel
      nanos_lt := by decide
      leap := by decide }

/-- What was still the last day of the year before is yesterday to the end of the next day. -/
theorem firstHours_localize :
    let now : Instant := ⟨-62167132860, 0⟩
    newYearSpelling.IsIn "0000-01-01T00:30:00.000000000Z" ∧
      firstHours.zone.dayOf newYearSpelling.instant = firstHours.zone.dayOf now - 1 ∧
      firstHours.localize "0000-01-01T00:30:00.000000000Z" (.still now) =
        (.ok "gestern @ 23:30 UTC-1", (Clock.still now).tick) := by
  intro now
  have spelled : newYearSpelling.IsIn "0000-01-01T00:30:00.000000000Z" :=
    ⟨[], [], by simp, by simp, by decide⟩
  have yesterday : firstHours.zone.dayOf newYearSpelling.instant =
      firstHours.zone.dayOf now - 1 := by decide
  obtain ⟨⟨said, told, tells⟩, -⟩ := firstHours.localize_tellsDay spelled (.still now)
  have words : firstHours.table.yesterday ++ " @ " ++
      firstHours.table.formatTime (.ofInstant (firstHours.zone newYearSpelling.instant)
        newYearSpelling.instant) = "gestern @ 23:30 UTC-1" := by decide +kernel
  refine ⟨spelled, yesterday, ?_⟩
  rw [told, tells.yesterday yesterday, words]

end TimeFormatter

end IngestViewer
