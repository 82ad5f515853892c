import IngestViewer.Proofs.CalendarDays
import IngestViewer.Proofs.DecimalTexts
import IngestViewer.Segments
import Mathlib.Algebra.Group.Fin.Basic
import Mathlib.Algebra.Group.Int.Defs
import Mathlib.Data.Fintype.Basic
import Mathlib.Data.Int.Init

namespace IngestViewer

namespace Date

/-- Whether the days of the week follow each other, from 0 for Monday, with the first of 1970 a
Thursday. -/
structure CountsWeekdays (weekday : Int → Fin 7) : Prop where
  epoch : weekday 0 = 3
  next : ∀ n, weekday (n + 1) = weekday n + 1

theorem weekday_succ (n : Int) : weekday (n + 1) = weekday n + 1 := by
  apply Fin.ext
  rw [Fin.val_add]
  simp only [weekday]
  omega

theorem countsWeekdays_weekday : CountsWeekdays weekday where
  epoch := by decide
  next := weekday_succ

/-- A step that can be taken back leads to one place after any number of days, also before the
first. -/
theorem eq_of_steps {α : Type} {step : α → α} (inj : Function.Injective step) (f g : Int → α)
    (hf : ∀ n, f (n + 1) = step (f n)) (hg : ∀ n, g (n + 1) = step (g n)) (zero : f 0 = g 0)
    (n : Int) : f n = g n := by
  induction n using Int.induction_on with
  | zero => exact zero
  | succ n ih => rw [hf, hg, ih]
  | pred n ih =>
    apply inj
    rw [← hf, ← hg, Int.sub_add_cancel]
    exact ih

theorem CountsWeekdays.eq_weekday {name : Int → Fin 7} (counts : CountsWeekdays name) (n : Int) :
    name n = weekday n :=
  eq_of_steps (add_left_injective 1) name weekday counts.next weekday_succ counts.epoch n

/-- There is one way to number the dates of the calendar day by day. -/
theorem CountsDays.number_ofDayNumber {number : Date → Int} (counts : CountsDays number) (n : Int) :
    number (ofDayNumber n) = n := by
  have first : number (ofDayNumber 0) = 0 := by
    have date : ofDayNumber 0 = ⟨1970, 0, 1⟩ := by decide +kernel
    rw [date, counts.epoch]
  have later (n : Int) : number (ofDayNumber (n + 1)) = number (ofDayNumber n) + 1 := by
    rw [ofDayNumber_succ]
    exact (counts.next _ (ofDayNumber_spec n).1).2
  exact eq_of_steps (add_left_injective 1) (fun n => number (ofDayNumber n)) id later
    (fun _ => rfl) first n

end Date

/-- Whether a moment lies in the local day with a number, counted from the first of 1970. -/
def Instant.LiesIn (t : Instant) (offset n : Int) : Prop :=
  86400 * n ≤ t.seconds + offset ∧ t.seconds + offset < 86400 * (n + 1)

theorem Instant.liesIn_iff {t : Instant} {offset n : Int} :
    t.LiesIn offset n ↔ (LocalTime.ofInstant offset t).day = n := by
  simp only [LiesIn, LocalTime.ofInstant, secondsOfDay]
  omega

namespace PhraseTable

/-- Whether the names of days and months are told apart and have no blanks in them. -/
structure HasPlainNames (table : PhraseTable) : Prop where
  weekdays : Function.Injective table.weekdays
  months : Function.Injective table.months
  weekday_plain : ∀ i, ' ' ∉ (table.weekdays i).toList
  month_plain : ∀ i, ' ' ∉ (table.months i).toList

theorem IsBuiltin.hasPlainNames {table : PhraseTable} (builtin : table.IsBuiltin) :
    table.HasPlainNames := by
  rcases builtin with rfl | rfl
  · exact ⟨by decide, by decide, by decide, by decide⟩
  · exact ⟨by decide, by decide, by decide, by decide⟩

/-- How a language writes a date behind its day of the week. -/
inductive WritesDate (table : PhraseTable) (weekday : Fin 7) (d : Date) (said : String) : Prop
  | monthFirst (style : table.dateStyle = .weekdayMonthDayYear)
      (whole : said = table.weekdays weekday ++ ", " ++ table.months d.month ++ " " ++
        d.day.repr ++ ", " ++ d.year.repr)
  | dayFirst (style : table.dateStyle = .weekdayDayMonthYear)
      (whole : said = table.weekdays weekday ++ ", " ++ d.day.repr ++ ". " ++
        table.months d.month ++ " " ++ d.year.repr)

theorem writesDate_formatDate (table : PhraseTable) (n : Int) :
    table.WritesDate (Date.weekday n) (Date.ofDayNumber n) (table.formatDate n) := by
  unfold formatDate
  dsimp only
  rw [decimalText_eq, yearText_eq]
  split
  next style => exact .monthFirst style rfl
  next style => exact .dayFirst style rfl

example : english.formatDate 0 = "Thu, January 1, 1970" := by decide +kernel

theorem blank_not_mem_concat {cs : List Char} {mark : Char} (plain : ' ' ∉ cs)
    (visible : ' ' ≠ mark) : ' ' ∉ cs ++ [mark] := by
  rw [List.mem_append, List.mem_singleton]
  exact fun inside => inside.elim plain visible

/-- Three blanks cut a date into its words. -/
theorem eq_of_words {a b c rest a' b' c' rest' : List Char}
    (ha : ' ' ∉ a) (hb : ' ' ∉ b) (hc : ' ' ∉ c) (ha' : ' ' ∉ a') (hb' : ' ' ∉ b') (hc' : ' ' ∉ c')
    (same : a ++ ' ' :: (b ++ ' ' :: (c ++ ' ' :: rest)) =
      a' ++ ' ' :: (b' ++ ' ' :: (c' ++ ' ' :: rest'))) :
    a = a' ∧ b = b' ∧ c = c' ∧ rest = rest' := by
  obtain ⟨first, same⟩ := eq_of_append_sep ha ha' same
  obtain ⟨second, same⟩ := eq_of_append_sep hb hb' same
  obtain ⟨third, last⟩ := eq_of_append_sep hc hc' same
  exact ⟨first, second, third, last⟩

theorem HasPlainNames.eq_of_names {table : PhraseTable} (names : table.HasPlainNames)
    {weekday weekday' : Fin 7} {d d' : Date}
    (weekdays : (table.weekdays weekday).toList = (table.weekdays weekday').toList)
    (months : (table.months d.month).toList = (table.months d'.month).toList)
    (days : d.day.repr.toList = d'.day.repr.toList)
    (years : d.year.repr.toList = d'.year.repr.toList) : weekday = weekday' ∧ d = d' := by
  have month := names.months (String.toList_inj.mp months)
  have day := Nat.repr_inj.mp (String.toList_inj.mp days)
  have year := Int.repr_inj.mp (String.toList_inj.mp years)
  refine ⟨names.weekdays (String.toList_inj.mp weekdays), ?_⟩
  obtain ⟨y, m, n⟩ := d
  obtain ⟨y', m', n'⟩ := d'
  obtain ⟨rfl, rfl, rfl⟩ : y = y' ∧ m = m' ∧ n = n' := ⟨year, month, day⟩
  rfl

/-- A text that is a date is one in one way. -/
theorem WritesDate.unique {table : PhraseTable} (names : table.HasPlainNames)
    {weekday weekday' : Fin 7} {d d' : Date} {said : String} (h : table.WritesDate weekday d said)
    (h' : table.WritesDate weekday' d' said) : weekday = weekday' ∧ d = d' := by
  have first (i : Fin 7) : ' ' ∉ (table.weekdays i).toList ++ [','] :=
    blank_not_mem_concat (names.weekday_plain i) (by decide)
  have month (d : Date) := names.month_plain d.month
  have day {mark : Char} (visible : ' ' ≠ mark) (d : Date) : ' ' ∉ d.day.repr.toList ++ [mark] :=
    blank_not_mem_concat (not_mem_repr (by decide) d.day) visible
  rcases h with ⟨style, whole⟩ | ⟨style, whole⟩ <;>
    rcases h' with ⟨style', whole'⟩ | ⟨style', whole'⟩
  · have same := congrArg String.toList (whole.symm.trans whole')
    have comma : ' ' ≠ ',' := by decide
    obtain ⟨weekdays, months, days, years⟩ := eq_of_words (first weekday) (month d) (day comma d)
      (first weekday') (month d') (day comma d') (by simpa using same)
    exact names.eq_of_names (List.append_cancel_right weekdays) months
      (List.append_cancel_right days) years
  · rw [style] at style'
    cases style'
  · rw [style] at style'
    cases style'
  · have same := congrArg String.toList (whole.symm.trans whole')
    have point : ' ' ≠ '.' := by decide
    obtain ⟨weekdays, days, months, years⟩ := eq_of_words (first weekday) (day point d) (month d)
      (first weekday') (day point d') (month d') (by simpa using same)
    exact names.eq_of_names (List.append_cancel_right weekdays) months
      (List.append_cancel_right days) years

/-- The full date that a language has for a moment at an offset. -/
def dateAt (table : PhraseTable) (offset : Int) (t : Instant) : String :=
  table.formatDate (LocalTime.ofInstant offset t).day

/-- Whether the dates of a language tell the local days of moments, with the dates of the calendar
and the days of the week counted day by day. -/
structure TellsLocalDays (table : PhraseTable) (number : Date → Int) (weekday : Int → Fin 7) :
    Prop where
  /-- The date of a moment is the one whose number is that of the local day, and a reader takes it
  for no other. -/
  writes : ∀ offset t, ∃ n d, t.LiesIn offset n ∧ d.IsReal ∧ number d = n ∧
    table.WritesDate (weekday n) d (table.dateAt offset t) ∧
    ∀ w d', table.WritesDate w d' (table.dateAt offset t) → w = weekday n ∧ d' = d
  same_iff : ∀ offset t offset' t', table.dateAt offset t = table.dateAt offset' t' ↔
    ∃ n, t.LiesIn offset n ∧ t'.LiesIn offset' n
  next : ∀ offset t offset' t' n, t.LiesIn offset n → t'.LiesIn offset' (n + 1) →
    ∀ w d, table.WritesDate w d (table.dateAt offset t) →
      table.WritesDate (w + 1) d.next (table.dateAt offset' t')

theorem dateAt_of_liesIn (table : PhraseTable) {offset n : Int} {t : Instant}
    (lies : t.LiesIn offset n) : table.dateAt offset t = table.formatDate n := by
  rw [dateAt, Instant.liesIn_iff.mp lies]

theorem formatDate_inj {table : PhraseTable} (names : table.HasPlainNames) {m n : Int} :
    table.formatDate m = table.formatDate n ↔ m = n := by
  constructor
  · intro same
    have written := table.writesDate_formatDate m
    rw [same] at written
    obtain ⟨-, dates⟩ := written.unique names (table.writesDate_formatDate n)
    exact Date.ofDayNumber_inj.mp dates
  · rintro rfl
    rfl

/-- At every moment and offset the built-in languages print the date of the local day, by which the
day is told from all others, and a day later the next date with the next day of the week. -/
theorem dateAt_tellsLocalDays {table : PhraseTable} (builtin : table.IsBuiltin)
    {number : Date → Int} (counts : Date.CountsDays number) {weekday : Int → Fin 7}
    (week : Date.CountsWeekdays weekday) : table.TellsLocalDays number weekday := by
  obtain rfl : weekday = Date.weekday := funext week.eq_weekday
  have names := builtin.hasPlainNames
  have written := table.writesDate_formatDate
  refine ⟨fun offset t => ?_, fun offset t offset' t' => ?_, ?_⟩
  · let n := (LocalTime.ofInstant offset t).day
    have lies : t.LiesIn offset n := Instant.liesIn_iff.mpr rfl
    have only (w : Fin 7) (d : Date) (read : table.WritesDate w d (table.formatDate n)) :=
      read.unique names (written n)
    exact ⟨n, Date.ofDayNumber n, lies, (Date.ofDayNumber_spec n).1, counts.number_ofDayNumber n,
      written n, only⟩
  · rw [dateAt, dateAt, formatDate_inj names]
    constructor
    · intro same
      exact ⟨_, Instant.liesIn_iff.mpr rfl, Instant.liesIn_iff.mpr same.symm⟩
    · rintro ⟨n, lies, lies'⟩
      rw [Instant.liesIn_iff.mp lies, Instant.liesIn_iff.mp lies']
  · intro offset t offset' t' n lies lies' w d read
    rw [table.dateAt_of_liesIn lies] at read
    rw [table.dateAt_of_liesIn lies']
    obtain ⟨rfl, rfl⟩ := read.unique names (written n)
    rw [← Date.weekday_succ, ← Date.ofDayNumber_succ]
    exact written (n + 1)

/-- The last moment before the year 0, and the same moment a second further east. -/
theorem dateAt_around_year_zero :
    let t : Instant := ⟨-62167219201, 999999999⟩
    german.IsBuiltin ∧ Date.CountsDays Date.dayNumber ∧ Date.CountsWeekdays Date.weekday ∧
      t.LiesIn 0 (-719529) ∧ t.LiesIn 1 (-719528) ∧
      german.dateAt 0 t = "Fr., 31. Dezember -1" ∧ german.dateAt 1 t = "Sa., 1. Januar 0" := by
  intro t
  have builtin : german.IsBuiltin := .inr rfl
  have tells := dateAt_tellsLocalDays builtin Date.countsDays_dayNumber Date.countsWeekdays_weekday
  have lies : t.LiesIn 0 (-719529) := ⟨by decide, by decide⟩
  have lies' : t.LiesIn 1 (-719529 + 1) := ⟨by decide, by decide⟩
  have friday : german.dateAt 0 t = "Fr., 31. Dezember -1" := by decide +kernel
  have read : german.WritesDate 4 ⟨-1, 11, 31⟩ (german.dateAt 0 t) :=
    .dayFirst rfl (by rw [friday]; decide +kernel)
  have saturday : german.dateAt 1 t = "Sa., 1. Januar 0" := by
    rcases tells.next 0 t 1 t _ lies lies' 4 _ read with ⟨style, -⟩ | ⟨-, whole⟩
    · cases style
    · rw [whole]
      decide +kernel
  exact ⟨builtin, Date.countsDays_dayNumber, Date.countsWeekdays_weekday, lies, lies', friday,
    saturday⟩

end PhraseTable

end IngestViewer
