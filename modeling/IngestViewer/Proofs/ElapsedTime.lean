import IngestViewer.Proofs.SpellingOrder
import Mathlib.Data.Rat.Floor
import Mathlib.Tactic.FieldSimp
import Mathlib.Tactic.Ring

namespace IngestViewer

/-- The seconds since the first moment of 1970. Those of a leap second are counted on. -/
def Instant.moment (t : Instant) : ℚ := t.seconds + (t.nanos : ℚ) / 1000000000

namespace Timestamp

/-- What digits behind a point are worth, however many there are. -/
def fractionOf : List (Fin 10) → ℚ
  | [] => 0
  | d :: ds => (d.val + fractionOf ds) / 10

theorem worth_eq_fractionOf {ds : List (Fin 10)} {k : Nat} (short : ds.length ≤ k) :
    (worth (10 ^ k / 10) ds : ℚ) = fractionOf ds * 10 ^ k := by
  induction ds generalizing k with
  | nil => simp [worth, fractionOf]
  | cons d ds ih =>
    obtain ⟨k, rfl⟩ : ∃ n, k = n + 1 := ⟨k - 1, by simp only [List.length_cons] at short; omega⟩
    have others := ih (Nat.le_of_succ_le_succ short)
    rw [worth, unit_succ, fractionOf]
    push_cast
    rw [others, pow_succ]
    ring

/-- Digits behind the last unit are worth nothing. -/
theorem worth_take (k : Nat) (ds : List (Fin 10)) :
    worth (10 ^ k / 10) (ds.take k) = worth (10 ^ k / 10) ds := by
  induction k generalizing ds with
  | zero => simp [worth_zero]
  | succ k ih =>
    cases ds with
    | nil => rfl
    | cons d ds => rw [List.take_succ_cons, worth, worth, unit_succ, ih]

namespace Spelling

/-- The exact seconds since the first moment of 1970, if the second is not the 60th. -/
def moment (w : Spelling) : ℚ :=
  86400 * w.date.dayNumber + w.hour * 3600 + w.minute * 60 + w.second - w.offset.seconds +
    fractionOf w.fraction

/-- The spelling with no more than nine digits behind the point. -/
def cut (w : Spelling) : Spelling := { w with fraction := w.fraction.take 9 }

theorem cut_eq {w : Spelling} (short : w.fraction.length ≤ 9) : w.cut = w := by
  rw [cut, List.take_of_length_le short]

theorem nanos_lt {w : Spelling} (plain : w.second.val ≠ 60) : w.instant.nanos < 1000000000 := by
  have fraction : worth 100000000 w.fraction < 1000000000 := worth_lt 9 w.fraction
  simp only [instant, nanos, if_neg plain]
  omega

/-- Nine digits are what is read of a fraction. -/
theorem moment_cut {w : Spelling} (plain : w.second.val ≠ 60) : w.cut.moment = w.instant.moment := by
  have fraction : ((worth 100000000 w.fraction : Nat) : ℚ) =
      fractionOf (w.fraction.take 9) * 10 ^ 9 := by
    have taken := worth_eq_fractionOf (List.length_take_le 9 w.fraction)
    rwa [worth_take 9] at taken
  have second : min w.second.val 59 = w.second.val := by omega
  simp only [Instant.moment, instant, nanos, if_neg plain, secondOfDay, second, Nat.add_zero,
    fraction, moment, cut]
  push_cast
  ring

end Spelling

end Timestamp

namespace Instant

variable {now t t' : Instant}

/-- Whether a second is not counted that has passed since a moment: in a leap second it is not, if
the time of day of the moment is later than the one shown. No second is lost in the last one of a
day. -/
def LosesSecond (now t : Instant) : Prop :=
  1000000000 ≤ now.nanos ∧ now.secondOfDay < t.secondOfDay

instance (now t : Instant) : Decidable (now.LosesSecond t) := inferInstanceAs (Decidable (_ ∧ _))

/-- The whole seconds that are counted from a timestamp to a moment. -/
def secondsFrom (now : Instant) (w : Timestamp.Spelling) : Int :=
  ⌊now.moment - w.cut.moment⌋ - if now.LosesSecond w.instant then 1 else 0

theorem secondsFrom_eq_floor {w : Timestamp.Spelling} (short : w.fraction.length ≤ 9)
    (kept : ¬now.LosesSecond w.instant) : now.secondsFrom w = ⌊now.moment - w.moment⌋ := by
  rw [secondsFrom, Timestamp.Spelling.cut_eq short, if_neg kept, Int.sub_zero]

theorem floor_moment_sub (now t : Instant) : ⌊now.moment - t.moment⌋ =
    ((now.seconds - t.seconds) * 1000000000 + ((now.nanos : Int) - t.nanos)) / 1000000000 := by
  rw [← Nat.cast_ofNat, ← Rat.floor_intCast_div_natCast]
  congr 1
  simp only [moment]
  push_cast
  field_simp
  ring

theorem nanosSince_eq (plain : t.nanos < 1000000000) : now.nanosSince t =
    (now.seconds - t.seconds) * 1000000000 + ((now.nanos : Int) - t.nanos) -
      if now.LosesSecond t then 1000000000 else 0 := by
  have leaps : now.leapsBetween t = -if now.LosesSecond t then 1 else 0 := by
    rw [leapsBetween, if_neg (by omega)]
    simp only [LosesSecond, and_comm (a := 1000000000 ≤ now.nanos)]
    split <;> rfl
  rw [nanosSince, leaps]
  split <;> omega

theorem nanosSince_ediv {w : Timestamp.Spelling} (plain : w.second.val ≠ 60) :
    now.nanosSince w.instant / 1000000000 = now.secondsFrom w := by
  rw [secondsFrom, Timestamp.Spelling.moment_cut plain, floor_moment_sub,
    nanosSince_eq (Timestamp.Spelling.nanos_lt plain)]
  split <;> omega

theorem secondsFrom_le {w w' : Timestamp.Spelling} (plain : w.second.val ≠ 60)
    (plain' : w'.second.val ≠ 60) (later : w.instant ≤ w'.instant)
    (lost : now.LosesSecond w.instant → now.LosesSecond w'.instant) :
    now.secondsFrom w' ≤ now.secondsFrom w := by
  have small := Timestamp.Spelling.nanos_lt plain
  have small' := Timestamp.Spelling.nanos_lt plain'
  have order : ⌊now.moment - w'.instant.moment⌋ ≤ ⌊now.moment - w.instant.moment⌋ := by
    rw [floor_moment_sub, floor_moment_sub]
    rw [le_def] at later
    omega
  rw [secondsFrom, secondsFrom, Timestamp.Spelling.moment_cut plain,
    Timestamp.Spelling.moment_cut plain']
  by_cases less : now.LosesSecond w.instant
  · rw [if_pos less, if_pos (lost less)]
    omega
  · rw [if_neg less]
    split <;> omega

end Instant

end IngestViewer
