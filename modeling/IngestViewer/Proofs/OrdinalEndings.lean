import IngestViewer.Ordinal

namespace IngestViewer

/-- Whether the last two digits are those of eleven, twelve or thirteen. -/
def EndsInTeen (digits : List Char) : Prop :=
  ['1', '1'] <:+ digits ∨ ['1', '2'] <:+ digits ∨ ['1', '3'] <:+ digits

/-- The ending of an ordinal number goes by the last digits of the number. -/
inductive OrdinalEnding (digits : List Char) : String → Prop
  | teen (teen : EndsInTeen digits) : OrdinalEnding digits "th"
  | first (plain : ¬ EndsInTeen digits) (last : ['1'] <:+ digits) : OrdinalEnding digits "st"
  | second (plain : ¬ EndsInTeen digits) (last : ['2'] <:+ digits) : OrdinalEnding digits "nd"
  | third (plain : ¬ EndsInTeen digits) (last : ['3'] <:+ digits) : OrdinalEnding digits "rd"
  | other (plain : ¬ EndsInTeen digits) (last : ∀ d ∈ ['1', '2', '3'], ¬ [d] <:+ digits) :
      OrdinalEnding digits "th"

/-- A number has one ending. -/
theorem OrdinalEnding.unique {digits : List Char} {ending ending' : String}
    (h : OrdinalEnding digits ending) (h' : OrdinalEnding digits ending') : ending = ending' := by
  have apart {d e : Char} (hd : [d] <:+ digits) (he : [e] <:+ digits) (ne : d ≠ e) : False := by
    have same := (List.suffix_of_suffix_length_le hd he (Nat.le_refl _)).eq_of_length rfl
    exact ne (List.cons.inj same).1
  cases h with
  | teen teen =>
    cases h' with
    | teen | other => rfl
    | first plain | second plain | third plain => exact absurd teen plain
  | first plain last =>
    cases h' with
    | teen teen => exact absurd teen plain
    | first => rfl
    | second _ last' | third _ last' => exact (apart last last' (by decide)).elim
    | other _ none => exact absurd last (none _ (by decide))
  | second plain last =>
    cases h' with
    | teen teen => exact absurd teen plain
    | second => rfl
    | first _ last' | third _ last' => exact (apart last last' (by decide)).elim
    | other _ none => exact absurd last (none _ (by decide))
  | third plain last =>
    cases h' with
    | teen teen => exact absurd teen plain
    | third => rfl
    | first _ last' | second _ last' => exact (apart last last' (by decide)).elim
    | other _ none => exact absurd last (none _ (by decide))
  | other plain none =>
    cases h' with
    | teen | other => rfl
    | first _ last | second _ last | third _ last => exact absurd last (none _ (by decide))

theorem digitChar_inj {d e : Nat} (hd : d < 10) (he : e < 10)
    (same : Nat.digitChar d = Nat.digitChar e) : d = e := by
  have codes := congrArg Char.toNat same
  rw [Nat.toNat_digitChar_of_lt_ten hd, Nat.toNat_digitChar_of_lt_ten he] at codes
  omega

theorem not_mem_repr {mark : Char} (other : mark.isDigit = false) (n : Nat) :
    mark ∉ n.repr.toList := by
  rw [Nat.toList_repr]
  intro inside
  have digit := Nat.isDigit_of_mem_toDigits (by decide) (by decide) inside
  rw [other] at digit
  cases digit

theorem digit_suffix_iff {d n : Nat} (hd : d < 10) :
    [Nat.digitChar d] <:+ Nat.toDigits 10 n ↔ n % 10 = d := by
  have last : n % 10 < 10 := Nat.mod_lt n (by decide)
  have front : ∃ front, Nat.toDigits 10 n = front ++ [Nat.digitChar (n % 10)] := by
    by_cases small : n < 10
    · exact ⟨[], by rw [Nat.toDigits_of_lt_base small, Nat.mod_eq_of_lt small]; rfl⟩
    · exact ⟨_, Nat.toDigits_of_base_le (by decide) (by omega)⟩
  obtain ⟨front, digits⟩ := front
  rw [digits]
  constructor
  · rintro ⟨before, whole⟩
    obtain ⟨-, same⟩ := List.append_inj' whole rfl
    exact (digitChar_inj hd last (List.cons.inj same).1).symm
  · rintro rfl
    exact List.suffix_append _ _

theorem two_digits_suffix_iff {d e n : Nat} (positive : 0 < d) (hd : d < 10) (he : e < 10) :
    [Nat.digitChar d, Nat.digitChar e] <:+ Nat.toDigits 10 n ↔ n % 100 = 10 * d + e := by
  by_cases small : n < 10
  · rw [Nat.toDigits_of_lt_base small]
    constructor
    · intro suffix
      have short := suffix.length_le
      simp at short
    · intro value
      omega
  · rw [Nat.toDigits_of_base_le (by decide) (by omega), List.suffix_concat_iff]
    have last : n % 10 < 10 := Nat.mod_lt n (by decide)
    constructor
    · rintro (none | ⟨front, whole, suffix⟩)
      · cases none
      · change [Nat.digitChar d] ++ [Nat.digitChar e] = front ++ [Nat.digitChar (n % 10)] at whole
        obtain ⟨rfl, same⟩ := List.append_inj' whole rfl
        have tens := (digit_suffix_iff hd).mp suffix
        have ones := digitChar_inj he last (List.cons.inj same).1
        omega
    · intro value
      have tens : n / 10 % 10 = d := by omega
      have ones : n % 10 = e := by omega
      exact .inr ⟨[Nat.digitChar d], by rw [ones]; rfl, (digit_suffix_iff hd).mpr tens⟩

theorem endsInTeen_iff {n : Nat} :
    EndsInTeen (Nat.toDigits 10 n) ↔ 11 ≤ n % 100 ∧ n % 100 ≤ 13 := by
  have eleven := two_digits_suffix_iff (d := 1) (e := 1) (n := n) (by decide) (by decide) (by decide)
  have twelve := two_digits_suffix_iff (d := 1) (e := 2) (n := n) (by decide) (by decide) (by decide)
  have thirteen :=
    two_digits_suffix_iff (d := 1) (e := 3) (n := n) (by decide) (by decide) (by decide)
  refine (or_congr eleven (or_congr twelve thirteen)).trans ?_
  omega

/-- The ending that a remainder decides on is the one for the last digits. -/
theorem ordinalEnding_ordinalSuffix (n : Nat) :
    OrdinalEnding (Nat.toDigits 10 n) (ordinalSuffix n) := by
  have one := digit_suffix_iff (d := 1) (n := n) (by decide)
  have two := digit_suffix_iff (d := 2) (n := n) (by decide)
  have three := digit_suffix_iff (d := 3) (n := n) (by decide)
  unfold ordinalSuffix
  split
  next teen => exact .teen (endsInTeen_iff.mpr teen)
  next plain =>
    have plain : ¬ EndsInTeen (Nat.toDigits 10 n) := fun h => plain (endsInTeen_iff.mp h)
    split
    next last => exact .first plain (one.mpr last)
    next noOne =>
      split
      next last => exact .second plain (two.mpr last)
      next noTwo =>
        split
        next last => exact .third plain (three.mpr last)
        next noThree =>
          refine .other plain fun d among suffix => ?_
          simp only [List.mem_cons, List.not_mem_nil, or_false] at among
          rcases among with rfl | rfl | rfl
          · exact noOne (one.mp suffix)
          · exact noTwo (two.mp suffix)
          · exact noThree (three.mp suffix)

end IngestViewer
