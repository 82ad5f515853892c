import IngestViewer.Proofs.CalendarDays
import IngestViewer.Timestamp

namespace IngestViewer.Timestamp

/-- A number below 100 in two digits. -/
def pair (n : Nat) : List Char :=
  [Nat.digitChar (n / 10), Nat.digitChar (n % 10)]

/-- What stands between the date and the time of day. -/
inductive Separator where
  | capital
  | small
  | space
deriving DecidableEq

def Separator.char : Separator → Char
  | capital => 'T'
  | small => 't'
  | space => ' '

inductive Sign where
  | plus
  | hyphen
  | minus
deriving DecidableEq

namespace Sign

def char : Sign → Char
  | plus => '+'
  | hyphen => '-'
  | minus => '\u2212'

def apply : Sign → Int → Int
  | plus, n => n
  | hyphen, n => -n
  | minus, n => -n

end Sign

/-- How far local time is ahead of universal time: a letter for not at all, or hours and minutes. -/
inductive Offset where
  | capital
  | small
  | signed (sign : Sign) (hours : Fin 24) (minutes : Fin 60)
deriving DecidableEq

namespace Offset

def text : Offset → List Char
  | capital => ['Z']
  | small => ['z']
  | signed sign hours minutes => sign.char :: (pair hours ++ ':' :: pair minutes)

def seconds : Offset → Int
  | capital => 0
  | small => 0
  | signed sign hours minutes => sign.apply (hours.val * 3600 + minutes.val * 60 : Nat)

end Offset

/-- The digits behind the point, if there are any. -/
def fractionText : List (Fin 10) → List Char
  | [] => []
  | d :: ds => '.' :: (d :: ds).map fun d => Nat.digitChar d.val

/-- What digits are worth, the first of them so many units. -/
def worth : Nat → List (Fin 10) → Nat
  | _, [] => 0
  | unit, d :: ds => d * unit + worth (unit / 10) ds

/-- A timestamp as it is spelled: a local date and time of day and the offset of local time. -/
structure Spelling where
  date : Date
  real : date.IsReal
  year_nonneg : 0 ≤ date.year
  year_le : date.year ≤ 9999
  separator : Separator
  hour : Fin 24
  minute : Fin 60
  second : Fin 61
  fraction : List (Fin 10)
  offset : Offset

def dateText (d : Date) : List Char :=
  pair (d.year.toNat / 100) ++ pair (d.year.toNat % 100) ++
    '-' :: (pair (d.month + 1) ++ '-' :: pair d.day)

def timeText (hour minute second : Nat) (fraction : List (Fin 10)) : List Char :=
  pair hour ++ ':' :: (pair minute ++ ':' :: (pair second ++ fractionText fraction))

namespace Spelling

def text (w : Spelling) : List Char :=
  dateText w.date ++ w.separator.char ::
    (timeText w.hour w.minute w.second w.fraction ++ w.offset.text)

/-- The second of the local day. The second 60 is second 59 a second later. -/
def secondOfDay (w : Spelling) : Nat :=
  w.hour * 3600 + w.minute * 60 + min w.second.val 59

def nanos (w : Spelling) : Nat :=
  worth 100000000 w.fraction + if w.second.val = 60 then 1000000000 else 0

def instant (w : Spelling) : Instant :=
  ⟨86400 * w.date.dayNumber + w.secondOfDay - w.offset.seconds, w.nanos⟩

end Spelling

/-- Whether a moment has a spelling at an offset: the local year has four digits, and only a second 59
goes on for another second. -/
structure IsSpellable (t : Instant) (o : Offset) : Prop where
  year_nonneg : 0 ≤ (Date.ofDayNumber ((t.seconds + o.seconds) / 86400)).year
  year_le : (Date.ofDayNumber ((t.seconds + o.seconds) / 86400)).year ≤ 9999
  nanos_lt : t.nanos < 2000000000
  leap : 1000000000 ≤ t.nanos → t.seconds % 60 = 59

/-- So many digits of a number, from the front. -/
def digitsOf : Nat → Nat → List (Fin 10)
  | 0, _ => []
  | k + 1, n => Fin.ofNat 10 (n / 10 ^ k) :: digitsOf k (n % 10 ^ k)

theorem worth_zero (ds : List (Fin 10)) : worth 0 ds = 0 := by
  induction ds with
  | nil => rfl
  | cons d ds ih => simp [worth, ih]

/-- The digit in front of `k` others counts in units of `10 ^ k`. -/
theorem unit_succ (k : Nat) : 10 ^ (k + 1) / 10 = 10 ^ k := by
  rw [Nat.pow_succ, Nat.mul_div_cancel _ (by omega)]

theorem worth_digitsOf (k : Nat) {n : Nat} (small : n < 10 ^ k) :
    worth (10 ^ k / 10) (digitsOf k n) = n := by
  induction k generalizing n with
  | zero => simp at small; simp [digitsOf, worth, small]
  | succ k ih =>
    have positive : 0 < 10 ^ k := Nat.pow_pos (by omega)
    have digit : n / 10 ^ k < 10 := by
      rw [Nat.div_lt_iff_lt_mul positive, Nat.mul_comm, ← Nat.pow_succ]
      exact small
    have rest := ih (Nat.mod_lt n positive)
    rw [digitsOf, worth, unit_succ, rest, Fin.val_ofNat, Nat.mod_eq_of_lt digit]
    exact Nat.div_add_mod' n _

theorem worth_lt (k : Nat) (ds : List (Fin 10)) : worth (10 ^ k / 10) ds < 10 ^ k := by
  induction k generalizing ds with
  | zero => simp [worth_zero]
  | succ k ih =>
    cases ds with
    | nil => exact Nat.pow_pos (by omega)
    | cons d ds =>
      have others := ih ds
      have digit := Nat.mul_le_mul_right (10 ^ k) (show d.val ≤ 9 by omega)
      rw [worth, unit_succ, Nat.pow_succ]
      omega

theorem seconds_offset (o : Offset) : o.seconds % 60 = 0 := by
  cases o with
  | capital => rfl
  | small => rfl
  | signed sign hours minutes =>
    cases sign <;> simp only [Offset.seconds, Sign.apply] <;> omega

namespace Spelling

def ofInstant (t : Instant) (o : Offset) (spellable : IsSpellable t o) : Spelling :=
  let wall := t.seconds + o.seconds
  let second := (wall % 86400).toNat
  { date := Date.ofDayNumber (wall / 86400)
    real := (Date.ofDayNumber_spec _).1
    year_nonneg := spellable.year_nonneg
    year_le := spellable.year_le
    separator := .capital
    hour := Fin.ofNat 24 (second / 3600)
    minute := Fin.ofNat 60 (second / 60)
    second := Fin.ofNat 61 (if t.nanos < 1000000000 then second % 60 else 60)
    fraction := digitsOf 9 (t.nanos % 1000000000)
    offset := o }

theorem secondOfDay_lt (w : Spelling) : w.secondOfDay < 86400 := by
  rw [secondOfDay]
  omega

/-- Whatever is spelled can be spelled at its offset. -/
theorem isSpellable_instant (w : Spelling) : IsSpellable w.instant w.offset := by
  have bound := w.secondOfDay_lt
  have fraction : worth 100000000 w.fraction < 1000000000 := worth_lt 9 w.fraction
  have day : (w.instant.seconds + w.offset.seconds) / 86400 = w.date.dayNumber := by
    simp only [instant]
    omega
  have date := Date.ofDayNumber_dayNumber w.real
  refine ⟨?_, ?_, ?_, fun leap => ?_⟩
  · rw [day, date]
    exact w.year_nonneg
  · rw [day, date]
    exact w.year_le
  · simp only [instant, nanos]
    split <;> omega
  · have even := seconds_offset w.offset
    simp only [instant, nanos] at leap
    split at leap
    next sixty =>
      simp only [instant, secondOfDay]
      omega
    next => omega

theorem instant_ofInstant {t : Instant} {o : Offset} (spellable : IsSpellable t o) :
    (ofInstant t o spellable).instant = t := by
  have bound := spellable.nanos_lt
  have leap := spellable.leap
  have day := (Date.ofDayNumber_spec ((t.seconds + o.seconds) / 86400)).2
  have even := seconds_offset o
  have fraction : worth 100000000 (digitsOf 9 (t.nanos % 1000000000)) = t.nanos % 1000000000 :=
    worth_digitsOf 9 (Nat.mod_lt t.nanos (by decide))
  have seconds : (ofInstant t o spellable).instant.seconds = t.seconds := by
    simp only [ofInstant, instant, secondOfDay, day, Fin.val_ofNat]
    split <;> omega
  have nanos : (ofInstant t o spellable).instant.nanos = t.nanos := by
    simp only [ofInstant, instant, Spelling.nanos, Fin.val_ofNat, fraction]
    split <;> split <;> omega
  show Instant.mk (ofInstant t o spellable).instant.seconds (ofInstant t o spellable).instant.nanos =
    ⟨t.seconds, t.nanos⟩
  rw [seconds, nanos]

end Spelling

end IngestViewer.Timestamp
