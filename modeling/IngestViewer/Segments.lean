namespace IngestViewer

/-- The parts of a text between the separators: one more than there are separators. -/
def segments (sep : Char) : List Char → List (List Char)
  | [] => [[]]
  | c :: cs =>
    if c = sep then [] :: segments sep cs
    else
      match segments sep cs with
      | [] => [[c]]
      | s :: ss => (c :: s) :: ss

/-- What stands before and after the last separator. -/
def cutLast (sep : Char) : List Char → Option (List Char × List Char)
  | [] => none
  | c :: cs =>
    match cutLast sep cs with
    | some (before, after) => some (c :: before, after)
    | none => if c = sep then some ([], cs) else none

/-- What stands before and after the first separator. -/
def cutFirst (sep : Char) : List Char → Option (List Char × List Char)
  | [] => none
  | c :: cs =>
    if c = sep then some ([], cs)
    else (cutFirst sep cs).map fun (before, after) => (c :: before, after)

/-- Whether a text holds another one in one piece. -/
def occursIn (needle : List Char) : List Char → Bool
  | [] => needle.isEmpty
  | c :: cs => needle.isPrefixOf (c :: cs) || occursIn needle cs

theorem segments_ne_nil (sep : Char) (cs : List Char) : segments sep cs ≠ [] := by
  induction cs with
  | nil => simp [segments]
  | cons c cs ih =>
    unfold segments
    split
    · simp
    · split <;> simp

theorem segments_append_sep (sep : Char) (a b : List Char) :
    segments sep (a ++ sep :: b) = segments sep a ++ segments sep b := by
  induction a with
  | nil => simp [segments]
  | cons c a ih =>
    by_cases same : c = sep
    · simp [segments, same, ih]
    · cases parts : segments sep a with
      | nil => exact absurd parts (segments_ne_nil sep a)
      | cons first others => simp [segments, same, ih, parts]

theorem segments_of_absent {sep : Char} {cs : List Char} (absent : sep ∉ cs) :
    segments sep cs = [cs] := by
  induction cs with
  | nil => rfl
  | cons c cs ih =>
    simp only [List.mem_cons, not_or] at absent
    simp [segments, Ne.symm absent.1, ih absent.2]

theorem not_mem_of_mem_segments {sep : Char} {cs s : List Char} (h : s ∈ segments sep cs) :
    sep ∉ s := by
  induction cs generalizing s with
  | nil =>
    have empty : s = [] := by simpa [segments] using h
    simp [empty]
  | cons c cs ih =>
    unfold segments at h
    split at h
    · obtain rfl | inside := List.mem_cons.mp h
      · simp
      · exact ih inside
    next other =>
      split at h
      next parts => exact absurd parts (segments_ne_nil sep cs)
      next first others parts =>
        have first : sep ∉ first := ih (by rw [parts]; exact List.mem_cons_self)
        obtain rfl | inside := List.mem_cons.mp h
        · simp [Ne.symm other, first]
        · exact ih (by rw [parts]; exact List.mem_cons_of_mem _ inside)

theorem mem_of_mem_segments {sep x : Char} {cs s : List Char} (h : s ∈ segments sep cs)
    (inside : x ∈ s) : x ∈ cs := by
  induction cs generalizing s with
  | nil =>
    have empty : s = [] := by simpa [segments] using h
    simp [empty] at inside
  | cons c cs ih =>
    unfold segments at h
    split at h
    · obtain rfl | later := List.mem_cons.mp h
      · simp at inside
      · exact List.mem_cons_of_mem _ (ih later inside)
    · split at h
      next parts => exact absurd parts (segments_ne_nil sep cs)
      next first others parts =>
        obtain rfl | later := List.mem_cons.mp h
        · obtain rfl | inside := List.mem_cons.mp inside
          · exact List.mem_cons_self
          · exact List.mem_cons_of_mem _ (ih (by rw [parts]; exact List.mem_cons_self) inside)
        · exact List.mem_cons_of_mem _
            (ih (by rw [parts]; exact List.mem_cons_of_mem _ later) inside)

theorem cutFirst_of_absent {sep : Char} {cs : List Char} (absent : sep ∉ cs) :
    cutFirst sep cs = none := by
  induction cs with
  | nil => rfl
  | cons c cs ih =>
    simp only [List.mem_cons, not_or] at absent
    simp [cutFirst, Ne.symm absent.1, ih absent.2]

theorem cutFirst_append {sep : Char} {before : List Char} (absent : sep ∉ before)
    (after : List Char) : cutFirst sep (before ++ sep :: after) = some (before, after) := by
  induction before with
  | nil => simp [cutFirst]
  | cons c before ih =>
    simp only [List.mem_cons, not_or] at absent
    simp [cutFirst, Ne.symm absent.1, ih absent.2]

theorem eq_of_append_sep {sep : Char} {before before' after after' : List Char}
    (absent : sep ∉ before) (absent' : sep ∉ before')
    (same : before ++ sep :: after = before' ++ sep :: after') :
    before = before' ∧ after = after' := by
  have cut := congrArg (cutFirst sep) same
  rw [cutFirst_append absent, cutFirst_append absent'] at cut
  exact Prod.mk.inj (Option.some.inj cut)

theorem cutLast_of_absent {sep : Char} {cs : List Char} (absent : sep ∉ cs) :
    cutLast sep cs = none := by
  induction cs with
  | nil => rfl
  | cons c cs ih =>
    simp only [List.mem_cons, not_or] at absent
    simp [cutLast, Ne.symm absent.1, ih absent.2]

theorem cutLast_append {sep : Char} (before : List Char) {after : List Char} (absent : sep ∉ after) :
    cutLast sep (before ++ sep :: after) = some (before, after) := by
  induction before with
  | nil => simp [cutLast, cutLast_of_absent absent]
  | cons c before ih => simp [cutLast, ih]

theorem cutLast_eq_none {sep : Char} {cs : List Char} (h : cutLast sep cs = none) : sep ∉ cs := by
  induction cs with
  | nil => simp
  | cons c cs ih =>
    unfold cutLast at h
    split at h
    next => simp at h
    next rest =>
      split at h
      next => simp at h
      next other => simp [ih rest, Ne.symm other]

theorem cutLast_eq_some {sep : Char} {cs before after : List Char}
    (h : cutLast sep cs = some (before, after)) : cs = before ++ sep :: after ∧ sep ∉ after := by
  induction cs generalizing before with
  | nil => simp [cutLast] at h
  | cons c cs ih =>
    unfold cutLast at h
    split at h
    next a b hc =>
      obtain ⟨rfl, rfl⟩ := Prod.mk.inj (Option.some.inj h)
      obtain ⟨rest, absent⟩ := ih hc
      exact ⟨by simp [rest], absent⟩
    next none =>
      split at h
      next hs =>
        obtain ⟨rfl, rfl⟩ := Prod.mk.inj (Option.some.inj h)
        exact ⟨by simp [hs], cutLast_eq_none none⟩
      next => simp at h

theorem occursIn_iff_infix {needle cs : List Char} : occursIn needle cs ↔ needle <:+: cs := by
  induction cs with
  | nil => simp [occursIn]
  | cons c cs ih => simp [occursIn, ih, List.infix_cons_iff]

end IngestViewer
