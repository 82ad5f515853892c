import IngestViewer.Proofs.TextOrder
import IngestViewer.Proofs.TimestampSpelling

namespace IngestViewer

/-- Moments in the order of time. A leap second comes behind the second that it prolongs and before
the next one. -/
instance : LE Instant :=
  ⟨fun t u => t.seconds < u.seconds ∨ t.seconds = u.seconds ∧ t.nanos ≤ u.nanos⟩

theorem Instant.le_def {t u : Instant} :
    t ≤ u ↔ t.seconds < u.seconds ∨ t.seconds = u.seconds ∧ t.nanos ≤ u.nanos :=
  Iff.rfl

namespace Timestamp

variable {cs cs' rest : List Char}

/-- Texts that begin with a digit each are in the order of the digits first. -/
theorem notBehind_digit {m n : Nat} (small : m < 10) (small' : n < 10)
    (le : NotBehind (Nat.digitChar m :: cs) (Nat.digitChar n :: cs')) :
    m < n ∨ m = n ∧ NotBehind cs cs' := by
  have value := Nat.toNat_digitChar_of_lt_ten small
  have value' := Nat.toNat_digitChar_of_lt_ten small'
  rcases le with less | ⟨same, others⟩
  · exact .inl (by omega)
  · rw [same] at value
    exact .inr ⟨by omega, others⟩

theorem notBehind_pair {m n : Nat} (small : m < 100) (small' : n < 100)
    (le : NotBehind (pair m ++ cs) (pair n ++ cs')) : m < n ∨ m = n ∧ NotBehind cs cs' := by
  rcases notBehind_digit (by omega) (by omega) le with tens | ⟨tens, le⟩
  · exact .inl (by omega)
  · rcases notBehind_digit (by omega) (by omega) le with ones | ⟨ones, others⟩
    · exact .inl (by omega)
    · exact .inr ⟨by omega, others⟩

/-- Texts that begin with a date each are in the order of the days first. -/
theorem notBehind_date {d d' : Date} (real : d.IsReal) (real' : d'.IsReal)
    (range : 0 ≤ d.year ∧ d.year ≤ 9999) (range' : 0 ≤ d'.year ∧ d'.year ≤ 9999)
    (le : NotBehind (dateText d ++ cs) (dateText d' ++ cs')) :
    d.dayNumber < d'.dayNumber ∨ d = d' ∧ NotBehind cs cs' := by
  have bound := Nat.le_trans real.day_le d.monthLength_le
  have bound' := Nat.le_trans real'.day_le d'.monthLength_le
  have later := Date.dayNumber_lt_of_later real real'
  simp only [dateText, List.append_assoc, List.cons_append] at le
  rcases notBehind_pair (by omega) (by omega) le with century | ⟨century, le⟩
  · exact .inl (later (.inl (by omega)))
  rcases notBehind_pair (by omega) (by omega) le with year | ⟨year, le⟩
  · exact .inl (later (.inl (by omega)))
  have sameYear : d.year = d'.year := by omega
  rcases notBehind_pair (by omega) (by omega) (notBehind_tail le) with month | ⟨month, le⟩
  · exact .inl (later (.inr ⟨sameYear, by omega⟩))
  have sameMonth : d.month = d'.month := Fin.ext (by omega)
  obtain ⟨y, m, n⟩ := d
  obtain ⟨y', m', n'⟩ := d'
  simp only at sameYear sameMonth
  subst sameYear sameMonth
  rcases notBehind_pair (by omega) (by omega) (notBehind_tail le) with day | ⟨day, le⟩
  · simp only at day
    exact .inl (by simp only [Date.dayNumber]; omega)
  · simp only at day
    exact .inr ⟨by rw [day], le⟩

/-- Whether a text begins with a character that comes before the point and all digits. -/
def BeginsLow : List Char → Prop
  | [] => False
  | c :: _ => c.toNat < 46

theorem not_notBehind_of_beginsLow (low : BeginsLow rest) {c : Char} (high : 46 ≤ c.toNat) :
    ¬NotBehind (c :: cs) rest := by
  cases rest with
  | nil => exact low.elim
  | cons d ds =>
    have low : d.toNat < 46 := low
    rintro (less | ⟨rfl, -⟩) <;> omega

/-- Digits in the order of texts are in the order of what they are worth if there are as many of
them, or if what follows comes before all digits. -/
theorem worth_le_of_digits (k : Nat) {ds ds' : List (Fin 10)}
    (comparable : ds.length = ds'.length ∨ BeginsLow rest)
    (le : NotBehind ((ds.map fun d => Nat.digitChar d.val) ++ rest)
      ((ds'.map fun d => Nat.digitChar d.val) ++ rest)) :
    worth (10 ^ k / 10) ds ≤ worth (10 ^ k / 10) ds' := by
  induction ds generalizing k ds' with
  | nil => exact Nat.zero_le _
  | cons d ds ih =>
    cases ds' with
    | nil =>
      rcases comparable with many | low
      · cases many
      · have value := Nat.toNat_digitChar_of_lt_ten d.isLt
        have digit : 46 ≤ (Nat.digitChar d.val).toNat := by omega
        exact absurd le (not_notBehind_of_beginsLow low digit)
    | cons d' ds' =>
      cases k with
      | zero => simp [worth_zero]
      | succ k =>
        have others := worth_lt k ds
        rw [worth, worth, unit_succ]
        rcases notBehind_digit d.isLt d'.isLt le with less | ⟨same, le⟩
        · have step := Nat.mul_le_mul_right (10 ^ k) (Nat.succ_le_of_lt less)
          rw [Nat.succ_mul] at step
          omega
        · have others := ih k (comparable.imp_left Nat.succ.inj) le
          rw [same]
          omega

theorem worth_le_of_fractionText {ds ds' : List (Fin 10)}
    (comparable : ds.length = ds'.length ∨ BeginsLow rest)
    (le : NotBehind (fractionText ds ++ rest) (fractionText ds' ++ rest)) :
    worth 100000000 ds ≤ worth 100000000 ds' := by
  cases ds with
  | nil => exact Nat.zero_le _
  | cons d ds =>
    cases ds' with
    | nil =>
      rcases comparable with many | low
      · cases many
      · exact absurd le (not_notBehind_of_beginsLow low (by decide))
    | cons d' ds' => exact worth_le_of_digits 9 comparable (notBehind_tail le)

/-- A way to spell timestamps: with a separator, an offset, and so many digits behind the point. -/
structure Style where
  separator : Separator
  offset : Offset
  places : Nat

namespace Spelling

/-- Whether a timestamp is spelled in a style. Behind an offset that begins low the number of digits
does not count. -/
structure HasStyle (w : Spelling) (style : Style) : Prop where
  separator : w.separator = style.separator
  offset : w.offset = style.offset
  places : w.fraction.length = style.places ∨ BeginsLow style.offset.text

variable {w w' : Spelling} {style : Style}

/-- Times of day in one style are in the order of time if they are in that of texts. -/
theorem time_le_of_notBehind (h : w.HasStyle style) (h' : w'.HasStyle style)
    (le : NotBehind (timeText w.hour w.minute w.second w.fraction ++ style.offset.text)
      (timeText w'.hour w'.minute w'.second w'.fraction ++ style.offset.text)) :
    w.secondOfDay < w'.secondOfDay ∨ w.secondOfDay = w'.secondOfDay ∧ w.nanos ≤ w'.nanos := by
  have fraction : worth 100000000 w.fraction < 1000000000 := worth_lt 9 w.fraction
  have comparable : w.fraction.length = w'.fraction.length ∨ BeginsLow style.offset.text := by
    rcases h.places with places | low
    · exact h'.places.imp_left fun places' => places.trans places'.symm
    · exact .inr low
  simp only [timeText, List.append_assoc, List.cons_append] at le
  simp only [secondOfDay, nanos]
  rcases notBehind_pair (by omega) (by omega) le with hour | ⟨hour, le⟩
  · exact .inl (by omega)
  rcases notBehind_pair (by omega) (by omega) (notBehind_tail le) with minute | ⟨minute, le⟩
  · exact .inl (by omega)
  rcases notBehind_pair (by omega) (by omega) (notBehind_tail le) with second | ⟨second, le⟩
  · -- second 59 and second 60 differ in the nanoseconds only
    split <;> split <;> omega
  · have digits := worth_le_of_fractionText comparable le
    rw [hour, minute, second]
    exact .inr ⟨rfl, by omega⟩

/-- Timestamps in one style are in the order of time if they are in that of texts. -/
theorem instant_le_of_notBehind (h : w.HasStyle style) (h' : w'.HasStyle style)
    (le : NotBehind w.text w'.text) : w.instant ≤ w'.instant := by
  have bound := w.secondOfDay_lt
  rw [text, text, h.separator, h.offset, h'.separator, h'.offset] at le
  rw [Instant.le_def, instant, instant, h.offset, h'.offset]
  rcases notBehind_date w.real w'.real ⟨w.year_nonneg, w.year_le⟩ ⟨w'.year_nonneg, w'.year_le⟩ le
    with day | ⟨day, le⟩
  · exact .inl (by simp only; omega)
  rcases time_le_of_notBehind h h' (notBehind_tail le) with second | ⟨second, nanos⟩
  · exact .inl (by simp only [day]; omega)
  · exact .inr ⟨by simp only [day, second], nanos⟩

end Spelling

end Timestamp

end IngestViewer
