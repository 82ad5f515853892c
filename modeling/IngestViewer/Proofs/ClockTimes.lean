import IngestViewer.Proofs.DecimalTexts
import IngestViewer.Segments

namespace IngestViewer

open Timestamp

/-- The minute of the local day that a moment lies in. -/
def Instant.minuteOfDay (t : Instant) (offset : Int) : Int :=
  (t.seconds + offset) / 60 % 1440

namespace LocalTime

theorem hour_lt (offset : Int) (t : Instant) : (ofInstant offset t).hour < 24 := by
  simp only [hour, ofInstant, Instant.secondsOfDay]
  omega

theorem minute_lt (l : LocalTime) : l.minute < 60 :=
  Nat.mod_lt _ (by decide)

theorem minuteOfDay_eq (offset : Int) (t : Instant) :
    t.minuteOfDay offset = 60 * (ofInstant offset t).hour + (ofInstant offset t).minute := by
  simp only [Instant.minuteOfDay, hour, minute, ofInstant, Instant.secondsOfDay]
  omega

end LocalTime

/-- How a clock shows a time of day in front of a zone. On a clock of twelve hours midnight and noon
are 12. -/
inductive ShowsTime (hour minute : Nat) (zone said : String) : ClockStyle → Prop
  | morning {face : Nat} (first : 1 ≤ face) (last : face ≤ 12) (hour_eq : hour = face % 12)
      (whole : said = face.repr ++ ":" ++ String.ofList (pair minute) ++ (" AM " ++ zone)) :
      ShowsTime hour minute zone said .twelveHour
  | afternoon {face : Nat} (first : 1 ≤ face) (last : face ≤ 12) (hour_eq : hour = face % 12 + 12)
      (whole : said = face.repr ++ ":" ++ String.ofList (pair minute) ++ (" PM " ++ zone)) :
      ShowsTime hour minute zone said .twelveHour
  | wholeDay
      (whole : said =
        String.ofList (pair hour) ++ ":" ++ String.ofList (pair minute) ++ (" " ++ zone)) :
      ShowsTime hour minute zone said .twentyFourHour

theorem showsTime_formatTime (table : PhraseTable) {l : LocalTime} (hour_lt : l.hour < 24) :
    ShowsTime l.hour l.minute (zoneText l.offset) (table.formatTime l) table.clockStyle := by
  have minute_lt := l.minute_lt
  have minutes : twoDigitText l.minute = String.ofList (pair l.minute) := twoDigitText_eq (by omega)
  have hours : twoDigitText l.hour = String.ofList (pair l.hour) := twoDigitText_eq (by omega)
  unfold PhraseTable.formatTime
  cases table.clockStyle with
  | twelveHour =>
    dsimp only
    rw [decimalText_eq, minutes, String.append_assoc]
    split
    next early =>
      have face : l.hour = ((l.hour + 11) % 12 + 1) % 12 := by omega
      exact .morning (by omega) (by omega) face rfl
    next late =>
      have face : l.hour = ((l.hour + 11) % 12 + 1) % 12 + 12 := by omega
      exact .afternoon (by omega) (by omega) face rfl
  | twentyFourHour =>
    dsimp only
    rw [hours, minutes, String.append_assoc]
    exact .wholeDay rfl

/-- The first colon and the two digits behind it cut a clock's text. -/
theorem eq_of_clock {hour hour' rest rest' said : String} {m m' : Nat} (plain : ':' ∉ hour.toList)
    (plain' : ':' ∉ hour'.toList) (small : m < 100) (small' : m' < 100)
    (whole : said = hour ++ ":" ++ String.ofList (pair m) ++ rest)
    (whole' : said = hour' ++ ":" ++ String.ofList (pair m') ++ rest') :
    hour = hour' ∧ m = m' ∧ rest = rest' := by
  have same : hour.toList ++ ':' :: (pair m ++ rest.toList) =
      hour'.toList ++ ':' :: (pair m' ++ rest'.toList) := by
    simpa using congrArg String.toList (whole.symm.trans whole')
  obtain ⟨hours, behind⟩ := eq_of_append_sep plain plain' same
  obtain ⟨minutes, others⟩ := List.append_inj behind rfl
  exact ⟨String.toList_inj.mp hours, pair_inj small small' minutes, String.toList_inj.mp others⟩

/-- A clock's text shows one time of day in one zone. -/
theorem ShowsTime.unique {hour hour' minute minute' : Nat} {zone zone' said : String}
    {style : ClockStyle} (h : ShowsTime hour minute zone said style)
    (h' : ShowsTime hour' minute' zone' said style) (hour_lt : hour < 24) (hour_lt' : hour' < 24)
    (minute_lt : minute < 60) (minute_lt' : minute' < 60) :
    hour = hour' ∧ minute = minute' ∧ zone = zone' := by
  have small : minute < 100 := by omega
  have small' : minute' < 100 := by omega
  have plain (face : Nat) : ':' ∉ face.repr.toList := not_mem_repr (by decide) face
  have halves (zone zone' : String) : " AM " ++ zone ≠ " PM " ++ zone' := by
    intro same
    have chars := congrArg String.toList same
    simp at chars
  cases h with
  | morning first last hour_eq whole =>
    cases h' with
    | morning first' last' hour_eq' whole' =>
      obtain ⟨faces, minutes, zones⟩ := eq_of_clock (plain _) (plain _) small small' whole whole'
      have face := Nat.repr_inj.mp faces
      exact ⟨by omega, minutes, (String.append_right_inj _).mp zones⟩
    | afternoon _ _ _ whole' =>
      obtain ⟨-, -, zones⟩ := eq_of_clock (plain _) (plain _) small small' whole whole'
      exact absurd zones (halves _ _)
  | afternoon first last hour_eq whole =>
    cases h' with
    | morning _ _ _ whole' =>
      obtain ⟨-, -, zones⟩ := eq_of_clock (plain _) (plain _) small small' whole whole'
      exact absurd zones.symm (halves _ _)
    | afternoon first' last' hour_eq' whole' =>
      obtain ⟨faces, minutes, zones⟩ := eq_of_clock (plain _) (plain _) small small' whole whole'
      have face := Nat.repr_inj.mp faces
      exact ⟨by omega, minutes, (String.append_right_inj _).mp zones⟩
  | wholeDay whole =>
    cases h' with
    | wholeDay whole' =>
      have digits {n : Nat} (n_lt : n < 24) : ':' ∉ (String.ofList (pair n)).toList := by
        rw [String.toList_ofList]
        exact not_mem_pair (by decide) (by omega)
      obtain ⟨hours, minutes, zones⟩ :=
        eq_of_clock (digits hour_lt) (digits hour_lt') small small' whole whole'
      have hour := pair_inj (by omega) (by omega) (String.ofList_inj.mp hours)
      exact ⟨hour, minutes, (String.append_right_inj _).mp zones⟩

/-- Whole hours and the minutes that are left, if there are any. -/
def hoursText (minutes : Nat) : String :=
  decimalText (minutes / 60) ++
    if minutes % 60 = 0 then "" else ":" ++ twoDigitText (minutes % 60)

theorem hoursText_inj {m n : Nat} : hoursText m = hoursText n ↔ m = n := by
  have plain (n : Nat) : ':' ∉ n.repr.toList := not_mem_repr (by decide) n
  have marked {m n : Nat} (even : m % 60 = 0) (left : n % 60 ≠ 0) : hoursText m ≠ hoursText n := by
    intro same
    have colon : ':' ∈ (hoursText n).toList := by simp [hoursText, left]
    rw [← same, hoursText, if_pos even, String.append_empty, decimalText_eq] at colon
    exact plain _ colon
  constructor
  · intro same
    by_cases even : m % 60 = 0 <;> by_cases even' : n % 60 = 0
    · rw [hoursText, hoursText, if_pos even, if_pos even', String.append_empty, String.append_empty,
        decimalText_eq, decimalText_eq, Nat.repr_inj] at same
      omega
    · exact absurd same (marked even even')
    · exact absurd same.symm (marked even' even)
    · have small (n : Nat) : n % 60 < 100 := by omega
      have whole {n : Nat} (left : n % 60 ≠ 0) : hoursText n =
          (n / 60).repr ++ ":" ++ String.ofList (pair (n % 60)) ++ "" := by
        rw [hoursText, if_neg left, decimalText_eq, twoDigitText_eq (small n), String.append_empty,
          String.append_assoc]
      obtain ⟨hours, minutes, -⟩ := eq_of_clock (plain _) (plain _) (small m) (small n) (whole even)
        (same.trans (whole even'))
      have hours := Nat.repr_inj.mp hours
      omega
  · rintro rfl
    rfl

/-- Whether two offsets have one name: both are none, or both lead the same way by the same whole
minutes. -/
def AreNamedAlike (offset offset' : Int) : Prop :=
  offset = 0 ∧ offset' = 0 ∨ offset ≠ 0 ∧ offset' ≠ 0 ∧ (offset < 0 ↔ offset' < 0) ∧
    offset.natAbs / 60 = offset'.natAbs / 60

/-- What stands behind the letters of universal time. -/
def zoneTail (offset : Int) : String :=
  if offset = 0 then "" else (if offset < 0 then "-" else "+") ++ hoursText (offset.natAbs / 60)

theorem zoneText_eq (offset : Int) : zoneText offset = "UTC" ++ zoneTail offset := by
  unfold zoneText zoneTail hoursText
  dsimp only
  split
  · rfl
  · rw [String.append_assoc, String.append_assoc]

theorem head?_zoneTail (offset : Int) : (zoneTail offset).toList.head? =
    if offset = 0 then none else if offset < 0 then some '-' else some '+' := by
  unfold zoneTail
  split
  · rfl
  · split <;> simp

theorem zoneTail_eq_iff {offset offset' : Int} :
    zoneTail offset = zoneTail offset' ↔ AreNamedAlike offset offset' := by
  constructor
  · intro same
    have signs := congrArg (fun tail : String => tail.toList.head?) same
    simp only [head?_zoneTail] at signs
    have none : offset = 0 ↔ offset' = 0 := by grind
    have west : offset < 0 ↔ offset' < 0 := by grind
    by_cases zero : offset = 0
    · exact .inl ⟨zero, none.mp zero⟩
    · have zero' := mt none.mpr zero
      have sign : (if offset < 0 then "-" else "+") = if offset' < 0 then "-" else "+" := by
        simp only [west]
      rw [zoneTail, zoneTail, if_neg zero, if_neg zero', sign, String.append_right_inj,
        hoursText_inj] at same
      exact .inr ⟨zero, zero', west, same⟩
  · rintro (⟨rfl, rfl⟩ | ⟨some, some', west, minutes⟩)
    · rfl
    · rw [zoneTail, zoneTail, if_neg some, if_neg some', minutes]
      simp only [west]

theorem zoneText_eq_iff {offset offset' : Int} :
    zoneText offset = zoneText offset' ↔ AreNamedAlike offset offset' := by
  rw [zoneText_eq, zoneText_eq, String.append_right_inj, zoneTail_eq_iff]

/-- Less than a minute is not nothing. -/
example : zoneText (-59) = "UTC-0" := by decide

theorem AreNamedAlike.eq_of_minutes {offset offset' : Int} (alike : AreNamedAlike offset offset')
    (whole : offset % 60 = 0) (whole' : offset' % 60 = 0) : offset = offset' := by
  rcases alike with ⟨zero, zero'⟩ | ⟨-, -, west, minutes⟩
  · rw [zero, zero']
  · omega

namespace PhraseTable

/-- The time that a language has for a moment at an offset. -/
def timeAt (table : PhraseTable) (offset : Int) (t : Instant) : String :=
  table.formatTime (LocalTime.ofInstant offset t)

/-- Whether the times of a language for two moments tell all that they show and nothing else. -/
structure TellsTimesApart (table : PhraseTable) (offset offset' : Int) (t t' : Instant) : Prop where
  clock : t.minuteOfDay offset =
    60 * (LocalTime.ofInstant offset t).hour + (LocalTime.ofInstant offset t).minute
  shows : ShowsTime (LocalTime.ofInstant offset t).hour (LocalTime.ofInstant offset t).minute
    (zoneText offset) (table.timeAt offset t) table.clockStyle
  time_iff : table.timeAt offset t = table.timeAt offset' t' ↔
    (LocalTime.ofInstant offset t).hour = (LocalTime.ofInstant offset' t').hour ∧
      (LocalTime.ofInstant offset t).minute = (LocalTime.ofInstant offset' t').minute ∧
        zoneText offset = zoneText offset'
  zone_iff : zoneText offset = zoneText offset' ↔ AreNamedAlike offset offset'
  minuteOfDay_eq : table.timeAt offset t = table.timeAt offset' t' →
    t.minuteOfDay offset = t'.minuteOfDay offset'
  /-- With whole minutes of offset the time of universal time is told as well. -/
  universal_eq : table.timeAt offset t = table.timeAt offset' t' → offset % 60 = 0 →
    offset' % 60 = 0 → t.minuteOfDay 0 = t'.minuteOfDay 0

theorem timeAt_eq_iff {table : PhraseTable} {offset offset' : Int} {t t' : Instant} :
    table.timeAt offset t = table.timeAt offset' t' ↔
      (LocalTime.ofInstant offset t).hour = (LocalTime.ofInstant offset' t').hour ∧
        (LocalTime.ofInstant offset t).minute = (LocalTime.ofInstant offset' t').minute ∧
          zoneText offset = zoneText offset' := by
  have hour_lt := LocalTime.hour_lt offset t
  have hour_lt' := LocalTime.hour_lt offset' t'
  have shown := showsTime_formatTime table hour_lt
  have shown' := showsTime_formatTime table hour_lt'
  constructor
  · intro same
    change table.formatTime _ = table.formatTime _ at same
    rw [same] at shown
    exact shown.unique shown' hour_lt hour_lt' (LocalTime.minute_lt _) (LocalTime.minute_lt _)
  · rintro ⟨hours, minutes, zones⟩
    change zoneText (LocalTime.ofInstant offset t).offset =
      zoneText (LocalTime.ofInstant offset' t').offset at zones
    rw [timeAt, timeAt, formatTime, formatTime, hours, minutes, zones]

/-- Times of two moments, at any two offsets, are the same if and only if they show the same hour
and minute in zones of one name. So a clock of either style tells the minute of the local day, and
that of the universal day if no offset has seconds. -/
theorem timeAt_tellsTimesApart (table : PhraseTable) (offset offset' : Int) (t t' : Instant) :
    table.TellsTimesApart offset offset' t t' := by
  have clock := LocalTime.minuteOfDay_eq offset t
  have clock' := LocalTime.minuteOfDay_eq offset' t'
  have shows := showsTime_formatTime table (LocalTime.hour_lt offset t)
  have zone_iff : zoneText offset = zoneText offset' ↔ AreNamedAlike offset offset' :=
    zoneText_eq_iff
  refine ⟨clock, shows, timeAt_eq_iff, zone_iff, fun same => ?_, fun same whole whole' => ?_⟩
  · obtain ⟨hours, minutes, -⟩ := timeAt_eq_iff.mp same
    rw [clock, clock', hours, minutes]
  · obtain ⟨hours, minutes, zones⟩ := timeAt_eq_iff.mp same
    have offsets := (zone_iff.mp zones).eq_of_minutes whole whole'
    rw [hours, minutes, ← clock'] at clock
    simp only [Instant.minuteOfDay] at clock ⊢
    omega

/-- Two midnights far ahead of universal time, and the noon between them. -/
theorem timeAt_of_midnights :
    let t : Instant := ⟨-19800, 0⟩
    let noon : Instant := ⟨23400, 0⟩
    let t' : Instant := ⟨66659, 999999999⟩
    english.timeAt 19800 t = "12:00 AM UTC+5:30" ∧ english.timeAt 19800 noon = "12:00 PM UTC+5:30" ∧
      english.timeAt 19800 t' = english.timeAt 19800 t ∧ t'.minuteOfDay 0 = t.minuteOfDay 0 := by
  intro t noon t'
  have tells := english.timeAt_tellsTimesApart 19800 19800 t' t
  have same := tells.time_iff.mpr ⟨by decide, by decide, rfl⟩
  have universal := tells.universal_eq same (by decide) (by decide)
  exact ⟨by decide +kernel, by decide +kernel, same, universal⟩

end PhraseTable

end IngestViewer
