import IngestViewer.JsonWriter
import IngestViewer.Proofs.JsonTokens

namespace IngestViewer.Json

theorem digits_toDigits (n : Nat) : ∀ d ∈ Nat.toDigits 10 n, d.isDigit := fun _ h =>
  Nat.isDigit_of_mem_toDigits (by omega) (by omega) h

/-- Only zero itself begins with a zero. -/
theorem toDigits_eq_of_head_zero {n : Nat} {ds : List Char} (h : Nat.toDigits 10 n = '0' :: ds) :
    ds = [] := by
  induction n using Nat.strongRecOn generalizing ds with
  | ind n ih =>
    by_cases small : n < 10
    · rw [Nat.toDigits_of_lt_base small] at h
      exact (List.cons.inj h).2.symm
    · rw [Nat.toDigits_of_base_le (by omega) (by omega)] at h
      cases front : Nat.toDigits 10 (n / 10) with
      | nil => exact absurd front Nat.toDigits_ne_nil
      | cons d front' =>
        rw [front, List.cons_append] at h
        obtain ⟨rfl, -⟩ := List.cons.inj h
        have hz : n / 10 = 0 := by
          have := ih (n / 10) (by omega) front
          subst this
          have := congrArg (Nat.ofDigitChars 10 · 0) front
          simpa [Nat.ofDigitChars_ten_toDigits, Nat.ofDigitChars_cons] using this
        omega

theorem areDigits_toDigits (n : Nat) : AreDigits (Nat.toDigits 10 n) :=
  ⟨Nat.toDigits_ne_nil, digits_toDigits n⟩

theorem spellsWhole_toDigits (n : Nat) : SpellsWhole n (Nat.toDigits 10 n) where
  digits := areDigits_toDigits n
  zero first := by
    obtain ⟨ds, whole⟩ := List.head?_eq_some_iff.mp first
    rw [whole, toDigits_eq_of_head_zero whole]
  value := Nat.ofDigitChars_ten_toDigits

theorem spellsPower_sign_toDigits (e : Int) :
    SpellsPower e ((if e < 0 then ['-'] else []) ++ Nat.toDigits 10 e.natAbs) := by
  have digits := areDigits_toDigits e.natAbs
  have value : digitsValue (Nat.toDigits 10 e.natAbs) = e.natAbs := Nat.ofDigitChars_ten_toDigits
  by_cases negative : e < 0
  · have power := SpellsPower.minus digits
    rw [value, show -(e.natAbs : Int) = e by omega] at power
    rwa [if_pos negative, List.singleton_append]
  · have power := SpellsPower.plain digits
    rw [value, show (e.natAbs : Int) = e by omega] at power
    rwa [if_neg negative, List.nil_append]

/-- A number of which what stands behind the point is digits, one at least. -/
def Number.IsLegible (n : Number) : Prop :=
  ∀ ds ∈ n.fraction, ds ≠ [] ∧ ∀ d ∈ ds, d.isDigit

/-- What a number is written with behind its whole part. -/
def Number.tail (n : Number) : List Char :=
  (match n.fraction with
    | some ds => '.' :: ds
    | none => []) ++
    match n.exponent with
    | some e => 'e' :: (if e < 0 then ['-'] else []) ++ Nat.toDigits 10 e.natAbs
    | none => []

theorem Number.spelled_eq (n : Number) :
    n.spelled = (if n.negative then ['-'] else []) ++ (Nat.toDigits 10 n.whole ++ n.tail) := by
  obtain ⟨negative, whole, fraction, exponent⟩ := n
  cases fraction <;> cases exponent <;> simp [Number.spelled, Number.tail]

theorem spellsUnsigned_toDigits {n : Number} (legible : n.IsLegible) :
    SpellsUnsigned n (Nat.toDigits 10 n.whole ++ n.tail) := by
  refine ⟨_, _, _, spellsWhole_toDigits n.whole, ?_, ?_, rfl⟩
  · cases fraction : n.fraction with
    | none => exact .absent
    | some ds =>
      obtain ⟨some, digits⟩ := legible ds fraction
      exact .point ⟨some, digits⟩
  · cases n.exponent with
    | none => exact .absent
    | some e => exact .lower (spellsPower_sign_toDigits e)

theorem spellsNumber_spelled {n : Number} (legible : n.IsLegible) : SpellsNumber n n.spelled := by
  have unsigned := spellsUnsigned_toDigits legible
  rw [SpellsNumber, n.spelled_eq]
  split
  · exact ⟨_, rfl, unsigned⟩
  · exact unsigned

end IngestViewer.Json
