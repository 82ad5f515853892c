import IngestViewer.Calendar
import Mathlib.Algebra.Ring.Nat

namespace IngestViewer.Date

/-- The number of days of a date's month. -/
def monthLength (d : Date) : Nat :=
  (monthLengths d.year).getD d.month 0

/-- A date that the calendar has. -/
structure IsReal (d : Date) : Prop where
  one_le_day : 1 ≤ d.day
  day_le : d.day ≤ d.monthLength

def next (d : Date) : Date :=
  if d.day < d.monthLength then ⟨d.year, d.month, d.day + 1⟩
  else if h : d.month.val + 1 < 12 then ⟨d.year, ⟨d.month.val + 1, h⟩, 1⟩
  else ⟨d.year + 1, ⟨0, by decide⟩, 1⟩

theorem monthLength_le (d : Date) : d.monthLength ≤ 31 := by
  have lengths (month : Fin 12) : (monthLengths d.year).getD month 0 ≤ 31 := by
    unfold monthLengths
    cases isLeapYear d.year <;> revert month <;> decide
  exact lengths d.month

theorem ofNumbers?_eq_some {year : Int} {month day : Nat} {d : Date} :
    ofNumbers? year month day = some d ↔
      d.IsReal ∧ d.year = year ∧ d.month.val + 1 = month ∧ d.day = day := by
  constructor
  · intro h
    rw [ofNumbers?] at h
    split at h
    next small =>
      split at h
      next real =>
        obtain ⟨first, positive, le⟩ := real
        cases Option.some.inj h
        have number : month - 1 + 1 = month := by omega
        exact ⟨⟨positive, le⟩, rfl, number, rfl⟩
      next => cases h
    next => cases h
  · rintro ⟨real, rfl, rfl, rfl⟩
    have number : d.month.val + 1 - 1 = d.month.val := by omega
    have small : d.month.val + 1 - 1 < 12 := by omega
    have there : 1 ≤ d.month.val + 1 ∧ 1 ≤ d.day ∧
        d.day ≤ (monthLengths d.year).getD (d.month.val + 1 - 1) 0 := by
      rw [number]
      exact ⟨by omega, real.one_le_day, real.day_le⟩
    rw [ofNumbers?, dif_pos small, if_pos there]
    simp only [number]

theorem daysBeforeYear_succ (year : Int) :
    daysBeforeYear (year + 1) = daysBeforeYear year + yearLength year := by
  have leap : isLeapYear year = true ↔ year % 4 = 0 ∧ (year % 100 ≠ 0 ∨ year % 400 = 0) := by
    simp [isLeapYear]
  unfold daysBeforeYear yearLength
  split
  next h =>
    have := leap.mp h
    omega
  next h =>
    have := mt leap.mpr h
    omega

theorem daysBeforeMonth_succ (year : Int) (month : Nat) :
    daysBeforeMonth year (month + 1) =
      daysBeforeMonth year month + (monthLengths year).getD month 0 := by
  rw [daysBeforeMonth, daysBeforeMonth, List.take_add_one, List.foldl_append]
  rw [List.getD_eq_getElem?_getD]
  cases (monthLengths year)[month]? <;> rfl

theorem daysBeforeMonth_last (year : Int) : daysBeforeMonth year 12 = yearLength year := by
  unfold daysBeforeMonth monthLengths yearLength
  split <;> rfl

/-- Whether dates are numbered day by day from the first of 1970. -/
structure CountsDays (number : Date → Int) : Prop where
  epoch : number ⟨1970, 0, 1⟩ = 0
  next : ∀ d : Date, d.IsReal → d.next.IsReal ∧ number d.next = number d + 1

theorem dayNumber_epoch : dayNumber ⟨1970, 0, 1⟩ = 0 := by
  decide

/-- Days are numbered one by one, across the ends of months and years. -/
theorem dayNumber_next {d : Date} (real : d.IsReal) : d.next.dayNumber = d.dayNumber + 1 := by
  have whole := daysBeforeMonth_succ d.year d.month
  have last := real.day_le
  rw [monthLength] at last
  rw [next]
  split
  next => simp only [dayNumber]; omega
  next ends =>
    rw [monthLength] at ends
    split
    next => simp only [dayNumber]; omega
    next december =>
      have month : d.month.val + 1 = 12 := by omega
      have year := daysBeforeYear_succ d.year
      have first : daysBeforeMonth (d.year + 1) 0 = 0 := rfl
      rw [month, daysBeforeMonth_last] at whole
      simp only [dayNumber, first]
      omega

theorem isReal_next (d : Date) : d.next.IsReal := by
  have first (year : Int) (month : Fin 12) : IsReal ⟨year, month, 1⟩ := by
    have lengths : 1 ≤ (monthLengths year).getD month 0 := by
      unfold monthLengths
      cases isLeapYear year <;> revert month <;> decide
    exact ⟨Nat.le_refl 1, lengths⟩
  rw [next]
  split
  next more => exact ⟨by simp, more⟩
  next =>
    split
    next => exact first _ _
    next => exact first _ _

theorem countsDays_dayNumber : CountsDays dayNumber where
  epoch := dayNumber_epoch
  next d real := ⟨d.isReal_next, dayNumber_next real⟩

/-- Years are passed over until the day lies in one. -/
theorem findYear_spec (fuel : Nat) {year : Int} {n : Nat}
    (h : daysBeforeYear year + n < daysBeforeYear (year + fuel)) :
    daysBeforeYear (findYear fuel year n).1 + (findYear fuel year n).2 = daysBeforeYear year + n ∧
      (findYear fuel year n).2 < yearLength (findYear fuel year n).1 := by
  induction fuel generalizing year n with
  | zero => simp at h; omega
  | succ fuel ih =>
    rw [findYear]
    split
    next within => exact ⟨rfl, within⟩
    next beyond =>
      -- the days of this year go from the day to the years before it, and the sum stays
      have next := daysBeforeYear_succ year
      have rest : daysBeforeYear (year + 1) + (n - yearLength year : Nat) =
          daysBeforeYear year + n := by omega
      have later : daysBeforeYear (year + 1) + (n - yearLength year : Nat) <
          daysBeforeYear (year + 1 + fuel) := by
        rw [rest, show year + 1 + (fuel : Int) = year + (fuel + 1 : Nat) by omega]
        exact h
      rw [← rest]
      exact ih later

theorem findMonth_spec (lens : List Nat) (month : Nat) {n : Nat} (h : n < lens.sum) :
    ∃ k r, findMonth lens month n = (month + k, r) ∧ k < lens.length ∧
      (lens.take k).sum + r = n ∧ r < lens.getD k 0 := by
  induction lens generalizing month n with
  | nil => simp at h
  | cons len lens ih =>
    rw [findMonth]
    split
    next within => exact ⟨0, n, rfl, by simp, by simp, by simpa using within⟩
    next beyond =>
      rw [List.sum_cons] at h
      have rest : n - len < lens.sum := by omega
      obtain ⟨k, r, found, bound, place, within⟩ := ih (month + 1) rest
      refine ⟨k + 1, r, ?_, by simpa using bound, ?_, by simpa using within⟩
      · rw [found, show month + 1 + k = month + (k + 1) by omega]
      · rw [List.take_succ_cons, List.sum_cons]
        omega

theorem daysBeforeYear_cycle (cycle : Int) :
    daysBeforeYear (400 * cycle) = daysOfCycle * cycle ∧
      daysBeforeYear (400 * cycle + 400) = daysOfCycle * cycle + daysOfCycle := by
  unfold daysBeforeYear daysOfCycle
  omega

theorem daysBeforeYear_mono {year year' : Int} (h : year ≤ year') :
    daysBeforeYear year ≤ daysBeforeYear year' := by
  unfold daysBeforeYear
  omega

theorem daysBeforeMonth_mono (year : Int) {month month' : Nat} (h : month ≤ month') :
    daysBeforeMonth year month ≤ daysBeforeMonth year month' := by
  induction h with
  | refl => exact Nat.le_refl _
  | step _ ih =>
    have := daysBeforeMonth_succ year
    exact Nat.le_trans ih (by rw [this]; omega)

/-- A date comes before all dates of later years and months. -/
theorem dayNumber_lt_of_later {d d' : Date} (real : d.IsReal) (real' : d'.IsReal)
    (later : d.year < d'.year ∨ d.year = d'.year ∧ d.month < d'.month) :
    d.dayNumber < d'.dayNumber := by
  have day := real.day_le
  have day' := real'.one_le_day
  have inMonth := daysBeforeMonth_succ d.year d.month
  rw [← monthLength] at inMonth
  simp only [dayNumber]
  rcases later with later | ⟨same, later⟩
  · have years := daysBeforeYear_mono (show d.year + 1 ≤ d'.year by omega)
    have months := daysBeforeMonth_mono d.year (show d.month.val + 1 ≤ 12 by omega)
    rw [daysBeforeYear_succ] at years
    rw [daysBeforeMonth_last] at months
    omega
  · have months := daysBeforeMonth_mono d.year (show d.month.val + 1 ≤ d'.month.val by omega)
    rw [← same]
    omega

/-- No two dates have the same number. -/
theorem eq_of_dayNumber_eq {d d' : Date} (real : d.IsReal) (real' : d'.IsReal)
    (same : d.dayNumber = d'.dayNumber) : d = d' := by
  have earlier := mt (dayNumber_lt_of_later real real')
  have later := mt (dayNumber_lt_of_later real' real)
  have year : d.year = d'.year := by omega
  have month : d.month = d'.month := by omega
  obtain ⟨y, m, day⟩ := d
  obtain ⟨y', m', day'⟩ := d'
  simp only at year month
  subst year month
  have day : day = day' := by
    simp only [dayNumber] at same
    omega
  rw [day]

/-- Every number belongs to a date that the calendar has. -/
theorem ofDayNumber_spec (n : Int) : (ofDayNumber n).IsReal ∧ (ofDayNumber n).dayNumber = n := by
  let fromZero := n + epochDay
  let cycle := fromZero / daysOfCycle
  let left := (fromZero % daysOfCycle).toNat
  obtain ⟨before, behind⟩ := daysBeforeYear_cycle cycle
  have whole : daysOfCycle * cycle + (left : Int) = fromZero ∧ (left : Int) < daysOfCycle := by
    simp only [cycle, left, daysOfCycle]
    omega
  have inCycle : daysBeforeYear (400 * cycle) + left < daysBeforeYear (400 * cycle + (400 : Nat)) := by
    have last : daysBeforeYear (400 * cycle + (400 : Nat)) = daysOfCycle * cycle + daysOfCycle :=
      behind
    omega
  obtain ⟨years, inYear⟩ := findYear_spec 400 inCycle
  generalize found : findYear 400 (400 * cycle) left = yearAndDay at years inYear
  obtain ⟨year, day⟩ := yearAndDay
  dsimp only at years inYear
  have months : day < (monthLengths year).sum := by
    rw [← daysBeforeMonth_last, daysBeforeMonth] at inYear
    rw [List.sum_eq_foldl_nat]
    exact inYear
  obtain ⟨k, r, inMonth, bound, place, within⟩ := findMonth_spec (monthLengths year) 0 months
  have twelve : k < 12 := bound
  have date : ofDayNumber n = ⟨year, ⟨k, twelve⟩, r + 1⟩ := by
    rw [ofDayNumber]
    simp only [fromZero, cycle, left] at found
    rw [found]
    simp only [inMonth]
    simp [Fin.ofNat, Nat.mod_eq_of_lt twelve]
  rw [List.sum_eq_foldl_nat] at place
  rw [date]
  refine ⟨⟨by simp, within⟩, ?_⟩
  have sum : daysBeforeMonth year k + r = day := place
  simp only [dayNumber]
  simp only [fromZero] at whole
  rw [before] at years
  omega

theorem ofDayNumber_dayNumber {d : Date} (real : d.IsReal) : ofDayNumber d.dayNumber = d :=
  eq_of_dayNumber_eq (ofDayNumber_spec _).1 real (ofDayNumber_spec _).2

theorem ofDayNumber_inj {m n : Int} : ofDayNumber m = ofDayNumber n ↔ m = n := by
  constructor
  · intro same
    rw [← (ofDayNumber_spec m).2, same, (ofDayNumber_spec n).2]
  · exact congrArg ofDayNumber

theorem ofDayNumber_succ (n : Int) : ofDayNumber (n + 1) = (ofDayNumber n).next := by
  obtain ⟨real, number⟩ := ofDayNumber_spec n
  have later := dayNumber_next real
  rw [number] at later
  rw [← later, ofDayNumber_dayNumber (isReal_next _)]

theorem previous_next {d : Date} (real : d.IsReal) : d.next.previous = d := by
  obtain ⟨year, month, day⟩ := d
  obtain ⟨first, last⟩ := real
  change 1 ≤ day at first
  change day ≤ (monthLengths year).getD month 0 at last
  rw [next]
  split
  next =>
    have behind : 1 < day + 1 := by omega
    rw [previous, if_pos behind, Nat.add_sub_cancel]
  next ends =>
    change ¬day < (monthLengths year).getD month 0 at ends
    have whole : (monthLengths year).getD month 0 = day := by omega
    split
    next =>
      rw [previous, if_neg (Nat.lt_irrefl 1), if_pos (Nat.succ_pos month.val)]
      exact congrArg (Date.mk year month) whole
    next december =>
      change ¬month.val + 1 < 12 at december
      have twelfth : month = Fin.last 11 := Fin.ext (show month.val = 11 by omega)
      subst twelfth
      have days : 31 = day := whole
      rw [previous, if_neg (Nat.lt_irrefl 1), if_neg (Nat.lt_irrefl 0), ← days, Int.add_sub_cancel]

/-- The day before on the calendar is the day before by number, for every day. -/
theorem previous_ofDayNumber (n : Int) : (ofDayNumber n).previous = ofDayNumber (n - 1) := by
  have later := ofDayNumber_succ (n - 1)
  rw [Int.sub_add_cancel] at later
  rw [later, previous_next (ofDayNumber_spec _).1]

end IngestViewer.Date
