import IngestViewer.Blank

namespace IngestViewer

def IsPadded (solid padded : List Char) : Prop :=
  ∃ before after, (∀ c ∈ before, isBlank c = true) ∧ (∀ c ∈ after, isBlank c = true) ∧
    padded = before ++ solid ++ after

theorem dropBlankEnd_blank {bs : List Char} (blank : ∀ b ∈ bs, isBlank b = true) :
    dropBlankEnd bs = [] := by
  induction bs with
  | nil => rfl
  | cons b bs ih =>
    obtain ⟨first, others⟩ := List.forall_mem_cons.mp blank
    simp [dropBlankEnd, ih others, first]

theorem dropBlankEnd_append (cs : List Char) {bs : List Char} (blank : ∀ b ∈ bs, isBlank b = true) :
    dropBlankEnd (cs ++ bs) = dropBlankEnd cs := by
  induction cs with
  | nil => exact dropBlankEnd_blank blank
  | cons c cs ih =>
    rw [List.cons_append, dropBlankEnd, dropBlankEnd, ih]

theorem dropBlankEnd_of_getLast? {cs : List Char} {d : Char} (last : cs.getLast? = some d)
    (solid : isBlank d = false) : dropBlankEnd cs = cs := by
  induction cs with
  | nil => rfl
  | cons c cs ih =>
    rw [dropBlankEnd]
    cases cs with
    | nil =>
      have same : c = d := Option.some.inj last
      simp [dropBlankEnd, same, solid]
    | cons e es =>
      rw [List.getLast?_cons_cons] at last
      rw [ih last]

theorem exists_dropBlankEnd (cs : List Char) :
    ∃ after, (∀ c ∈ after, isBlank c = true) ∧ cs = dropBlankEnd cs ++ after := by
  induction cs with
  | nil => exact ⟨[], by simp, rfl⟩
  | cons c cs ih =>
    obtain ⟨after, blank, whole⟩ := ih
    rw [dropBlankEnd]
    cases kept : dropBlankEnd cs with
    | nil =>
      rw [kept, List.nil_append] at whole
      subst whole
      by_cases first : isBlank c = true
      · exact ⟨c :: cs, List.forall_mem_cons.mpr ⟨first, blank⟩, by simp [first]⟩
      · exact ⟨cs, blank, by simp [first]⟩
    | cons d ds =>
      rw [kept] at whole
      exact ⟨after, blank, congrArg (c :: ·) whole⟩

theorem isPadded_trimBlanks (cs : List Char) : IsPadded (trimBlanks cs) cs := by
  obtain ⟨after, blankAfter, whole⟩ := exists_dropBlankEnd (cs.dropWhile isBlank)
  refine ⟨cs.takeWhile isBlank, after, List.all_eq_true.mp List.all_takeWhile, blankAfter, ?_⟩
  rw [trimBlanks, List.append_assoc, ← whole, List.takeWhile_append_dropWhile]

theorem trimBlanks_eq_nil {cs : List Char} : trimBlanks cs = [] ↔ ∀ c ∈ cs, isBlank c = true := by
  constructor
  · intro nothing
    obtain ⟨before, after, blankBefore, blankAfter, whole⟩ := isPadded_trimBlanks cs
    rw [nothing, List.append_nil] at whole
    rw [whole]
    exact List.forall_mem_append.mpr ⟨blankBefore, blankAfter⟩
  · intro blank
    have none : (cs ++ []).dropWhile isBlank = [] := List.dropWhile_append_of_pos blank
    rw [List.append_nil] at none
    rw [trimBlanks, none]
    rfl

/-- A text that begins and ends with no blank is all that is left of it with blanks around. -/
theorem trimBlanks_of_isPadded {solid cs : List Char} {c d : Char} (first : solid.head? = some c)
    (last : solid.getLast? = some d) (solidFirst : isBlank c = false) (solidLast : isBlank d = false)
    (padded : IsPadded solid cs) : trimBlanks cs = solid := by
  obtain ⟨before, after, blankBefore, blankAfter, rfl⟩ := padded
  obtain ⟨others, rfl⟩ := List.head?_eq_some_iff.mp first
  have start : (before ++ (c :: others) ++ after).dropWhile isBlank = c :: others ++ after := by
    rw [List.append_assoc, List.dropWhile_append_of_pos blankBefore]
    simp [solidFirst]
  rw [trimBlanks, start, dropBlankEnd_append _ blankAfter, dropBlankEnd_of_getLast? last solidLast]

end IngestViewer
