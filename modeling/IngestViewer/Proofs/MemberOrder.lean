import IngestViewer.Proofs.SettledJson

namespace IngestViewer.Json

namespace Members

def named (name : Literal) (ms : Members) : Members :=
  ms.filter (·.1 == name)

/-- The same members in an order in which those that share a name stay in theirs. -/
def Reordered (ms ms' : Members) : Prop :=
  ∀ name, ms.named name = ms'.named name

theorem Reordered.mem_iff {ms ms' : Members} (h : ms.Reordered ms') (m : Literal × Json) :
    m ∈ ms ↔ m ∈ ms' := by
  have alike := congrArg (m ∈ ·) (h m.1)
  simpa [named, List.mem_filter] using alike

theorem named_append (name : Literal) (ms ms' : Members) :
    (ms ++ ms').named name = ms.named name ++ ms'.named name :=
  List.filter_append ..

theorem named_cons_self (name : Literal) (v : Json) (ms : Members) :
    Members.named name ((name, v) :: ms) = (name, v) :: ms.named name := by
  simp [named]

theorem named_cons_other {name other : Literal} (apart : other ≠ name) (v : Json) (ms : Members) :
    Members.named name ((other, v) :: ms) = ms.named name := by
  simp [named, apart]

theorem named_erase_other {name : String} {other : Literal} (apart : other ≠ some name)
    (ms : Members) : (ms.erase name).named other = ms.named other := by
  rw [named, erase, List.filter_filter]
  refine List.filter_congr fun m _ => ?_
  by_cases same : m.1 = other
  · simp [same, apart]
  · simp [same]

theorem find?_eq_head? (name : String) (ms : Members) :
    ms.find? name = (ms.named (some name)).head?.map (·.2) := by
  induction ms with
  | nil => rfl
  | cons m ms ih =>
    obtain ⟨n, v⟩ := m
    by_cases same : n = some name
    · subst same
      rw [named_cons_self, find?, List.lookup_cons_self]
      rfl
    · have other : (some name == n) = false := beq_eq_false_iff_ne.mpr (Ne.symm same)
      rw [named_cons_other same, ← ih, find?, List.lookup_cons, other]
      rfl

theorem find?_insert_self (name : String) (v : Json) (ms : Members) :
    (ms.insert name v).find? name = some v := by
  have none : (ms.erase name).named (some name) = [] := by
    refine List.filter_eq_nil_iff.mpr fun m hm => ?_
    have other := (List.mem_filter.mp hm).2
    simpa using other
  rw [find?_eq_head?, insert, named_append, none, named_cons_self]
  rfl

theorem find?_insert_other {name other : String} (apart : other ≠ name) (v : Json)
    (ms : Members) : (ms.insert name v).find? other = ms.find? other := by
  have different : some other ≠ some name := fun h => apart (Option.some.inj h)
  rw [find?_eq_head?, insert, named_append, named_erase_other different,
    named_cons_other different.symm, find?_eq_head?]
  simp [named]

end Members

theorem mem_lastWinsMembers_names {name : Literal} {ms : Members}
    (h : name ∈ (lastWinsMembers ms).map Prod.fst) : name ∈ ms.map Prod.fst := by
  induction ms with
  | nil => cases h
  | cons m ms ih =>
    rw [lastWinsMembers] at h
    split at h
    next => exact List.mem_cons_of_mem _ (ih h)
    next =>
      rcases List.mem_cons.mp h with rfl | h
      · exact List.mem_cons_self
      · exact List.mem_cons_of_mem _ (ih h)

theorem nodup_names_lastWinsMembers (ms : Members) :
    ((lastWinsMembers ms).map Prod.fst).Nodup := by
  induction ms with
  | nil => exact .nil
  | cons m ms ih =>
    rw [lastWinsMembers]
    split
    next => exact ih
    next fresh =>
      refine List.nodup_cons.mpr ⟨fun h => fresh ?_, ih⟩
      obtain ⟨m', hm', same⟩ := List.mem_map.mp (mem_lastWinsMembers_names h)
      exact List.any_eq_true.mpr ⟨m', hm', by simpa using same⟩

theorem lastWinsMembers_eq_self {ms : Members} (nodup : (ms.map Prod.fst).Nodup)
    (tidy : ∀ m ∈ ms, m.2.lastWins = m.2) : lastWinsMembers ms = ms := by
  rw [lastWinsMembers_of_nodup nodup]
  refine (List.map_congr_left fun m hm => ?_).trans (List.map_id ms)
  rw [tidy m hm]
  rfl

/-- What a name stands for once repeated members are gone is the last of its members. -/
theorem find?_lastWinsMembers (name : String) (ms : Members) :
    Members.find? name (lastWinsMembers ms) =
      (ms.named (some name)).getLast?.map (·.2.lastWins) := by
  induction ms with
  | nil => rfl
  | cons m ms ih =>
    obtain ⟨n, v⟩ := m
    rw [lastWinsMembers]
    by_cases same : n = some name
    · subst same
      rw [Members.named_cons_self]
      split
      next repeated =>
        obtain ⟨m', hm', eq⟩ := List.any_eq_true.mp repeated
        have there : Members.named (some name) ms ≠ [] :=
          List.ne_nil_of_mem (List.mem_filter.mpr ⟨hm', eq⟩)
        rw [ih, List.getLast?_cons_of_ne_nil there]
      next alone =>
        have none : Members.named (some name) ms = [] := by
          refine List.filter_eq_nil_iff.mpr fun m' hm' eq => alone ?_
          exact List.any_eq_true.mpr ⟨m', hm', eq⟩
        rw [none, Members.find?, List.lookup_cons_self]
        rfl
    · rw [Members.named_cons_other same, ← ih]
      split
      next => rfl
      next =>
        have other : (some name == n) = false := beq_eq_false_iff_ne.mpr (Ne.symm same)
        rw [Members.find?, List.lookup_cons, other]
        rfl

/-- The fields of an object that names each member once are its members. -/
theorem fields_of_nodup (names : List String) {ms : Members}
    (named : ∀ m ∈ ms, m.1.isSome = true) (nodup : (ms.map Prod.fst).Nodup) :
    fields names (object ms) = some fun name => ms.find? name := by
  have all : ms.all (·.1.isSome) = true := List.all_eq_true.mpr named
  have once (name : String) : ms.count name ≤ 1 := by
    have unique := List.nodup_iff_count_le_one.mp nodup (some name)
    rwa [List.count, List.countP_map] at unique
  simp [fields, all, once]

end IngestViewer.Json
