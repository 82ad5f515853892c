namespace IngestViewer

theorem toNat_toLower (c : Char) :
    c.toLower.toNat = if 65 ≤ c.toNat ∧ c.toNat ≤ 90 then c.toNat + 32 else c.toNat := by
  by_cases upper : 65 ≤ c.toNat ∧ c.toNat ≤ 90
  · have inside : c.val ≥ 'A'.val ∧ c.val ≤ 'Z'.val :=
      ⟨UInt32.le_iff_toNat_le.mpr upper.1, UInt32.le_iff_toNat_le.mpr upper.2⟩
    have lowered : c.toLower.val = c.val + 32 := congrArg Char.val (dif_pos inside)
    have sum : c.toLower.toNat = (c.toNat + 32) % 2 ^ 32 := by
      rw [Char.toNat, lowered, UInt32.toNat_add]
      rfl
    rw [sum, if_pos upper]
    omega
  · have outside : ¬(c.val ≥ 'A'.val ∧ c.val ≤ 'Z'.val) := fun h =>
      upper ⟨UInt32.le_iff_toNat_le.mp h.1, UInt32.le_iff_toNat_le.mp h.2⟩
    have same : c.toLower = c := dif_neg outside
    rw [same, if_neg upper]

/-- What is no small letter is the lower case of itself only. -/
theorem eq_of_toLower {c d : Char} (h : c.toLower = d) (sign : d.toNat < 97) : c = d := by
  have value := toNat_toLower c
  rw [h] at value
  apply Char.toNat_inj.mp
  split at value <;> omega

theorem eq_of_toLower_e {c : Char} (h : c.toLower = 'e') : c = 'e' ∨ c = 'E' := by
  have value := toNat_toLower c
  rw [h] at value
  have e : 'e'.toNat = 101 := rfl
  split at value
  · right
    apply Char.toNat_inj.mp
    change c.toNat = 69
    omega
  · left
    apply Char.toNat_inj.mp
    omega

end IngestViewer
