import IngestViewer.RecentIngests

namespace IngestViewer

/-- The entries without those of an ingest that has an entry further ahead. -/
def firstOfEach : List RecentIngest → List RecentIngest
  | [] => []
  | e :: es => e :: (firstOfEach es).filter (·.ingestId ≠ e.ingestId)

theorem firstOfEach_sublist (es : List RecentIngest) : (firstOfEach es).Sublist es := by
  induction es with
  | nil => exact .slnil
  | cons e es ih => exact (List.filter_sublist.trans ih).cons_cons e

theorem nodup_filter_ids {es : List RecentIngest} (nodup : (es.map (·.ingestId)).Nodup)
    (p : RecentIngest → Bool) : ((es.filter p).map (·.ingestId)).Nodup :=
  nodup.sublist (List.filter_sublist.map _)

theorem firstOfEach_nodup (es : List RecentIngest) :
    ((firstOfEach es).map (·.ingestId)).Nodup := by
  induction es with
  | nil => exact .nil
  | cons e es ih =>
    refine List.nodup_cons.mpr ⟨?_, nodup_filter_ids ih _⟩
    intro h
    obtain ⟨f, hf, same⟩ := List.mem_map.mp h
    have other := (List.mem_filter.mp hf).2
    simp [same] at other

theorem filter_of_absent {es : List RecentIngest} {id : IngestId}
    (absent : id ∉ es.map (·.ingestId)) : es.filter (·.ingestId ≠ id) = es := by
  refine List.filter_eq_self.mpr fun f hf => ?_
  have other : f.ingestId ≠ id := fun same => absent (List.mem_map.mpr ⟨f, hf, same⟩)
  simp [other]

theorem firstOfEach_of_nodup {es : List RecentIngest} (nodup : (es.map (·.ingestId)).Nodup) :
    firstOfEach es = es := by
  induction es with
  | nil => rfl
  | cons e es ih =>
    obtain ⟨fresh, nodup⟩ := List.nodup_cons.mp nodup
    rw [firstOfEach, ih nodup, filter_of_absent fresh]

/-- An entry that is kept is the first one of its ingest. -/
theorem find?_of_mem_firstOfEach {es : List RecentIngest} {f : RecentIngest} (h : f ∈ firstOfEach es) :
    es.find? (·.ingestId = f.ingestId) = some f := by
  induction es with
  | nil => cases h
  | cons e es ih =>
    rcases List.mem_cons.mp h with rfl | h
    · simp
    · obtain ⟨hf, other⟩ := List.mem_filter.mp h
      have other : ¬e.ingestId = f.ingestId := by
        intro same
        simp [same] at other
      rw [List.find?_cons_of_neg (by simpa using other)]
      exact ih hf

theorem firstOfEach_append (es fs : List RecentIngest) :
    firstOfEach (es ++ fs) =
      firstOfEach es ++ (firstOfEach fs).filter (·.ingestId ∉ es.map (·.ingestId)) := by
  induction es with
  | nil =>
    have all : (firstOfEach fs).filter (·.ingestId ∉ ([] : List RecentIngest).map (·.ingestId)) =
        firstOfEach fs := List.filter_eq_self.mpr (by simp)
    rw [all]
    rfl
  | cons e es ih =>
    simp only [List.cons_append, firstOfEach, ih, List.filter_append, List.filter_filter]
    congr 2
    refine List.filter_congr fun f _ => ?_
    simp [List.mem_cons, not_or]

/-- An entry that is the first one of its ingest is kept by a cut, unless enough others stand in
front of it. -/
theorem mem_take_firstOfEach_or {newer older : List RecentIngest} {e : RecentIngest}
    (first : e.ingestId ∉ newer.map (·.ingestId)) (n : Nat) :
    e ∈ (firstOfEach (newer ++ e :: older)).take n ∨
      ((firstOfEach (newer ++ e :: older)).take n).length = n ∧
        (firstOfEach (newer ++ e :: older)).take n ⊆ newer := by
  obtain ⟨rest, split⟩ : ∃ rest, firstOfEach (newer ++ e :: older) =
      firstOfEach newer ++ e :: rest := by
    rw [firstOfEach_append, firstOfEach, List.filter_cons_of_pos (by simpa using first)]
    exact ⟨_, rfl⟩
  rw [split]
  by_cases room : (firstOfEach newer).length < n
  · left
    have place : (firstOfEach newer ++ e :: rest)[(firstOfEach newer).length]? = some e := by simp
    exact List.mem_of_getElem? ((List.getElem?_take_of_lt room).trans place)
  · right
    have full : n ≤ (firstOfEach newer).length := by omega
    rw [List.take_append_of_le_length full]
    refine ⟨List.length_take_of_le full, fun f hf => ?_⟩
    exact (firstOfEach_sublist newer).subset (List.mem_of_mem_take hf)

/-- Cutting a list before one ingest is taken out of it leaves enough: at most one entry goes. -/
theorem take_filter_take {es : List RecentIngest} (nodup : (es.map (·.ingestId)).Nodup)
    (id : IngestId) (n : Nat) :
    ((es.take (n + 1)).filter (·.ingestId ≠ id)).take n =
      (es.filter (·.ingestId ≠ id)).take n := by
  induction es generalizing n with
  | nil => simp
  | cons e es ih =>
    obtain ⟨fresh, nodup⟩ := List.nodup_cons.mp nodup
    by_cases same : e.ingestId = id
    · subst same
      have absent : e.ingestId ∉ (es.take n).map (·.ingestId) :=
        fun h => fresh (((List.take_sublist n es).map _).subset h)
      have cut := filter_of_absent absent
      have whole := filter_of_absent fresh
      simp only [ne_eq, decide_not] at cut whole
      simp [cut, whole, List.take_take]
    · cases n with
      | zero => simp
      | succ n =>
        have := ih nodup n
        simp only [ne_eq, decide_not] at this
        simp [same, this]

namespace RecentIngests

/-- One entry in front of a list that has been cut is the same as in front of the whole list. -/
theorem pushFront_take (es : List RecentIngest) (e : RecentIngest) :
    pushFront ⟨(firstOfEach es).take capacity⟩ e = ⟨(firstOfEach (e :: es)).take capacity⟩ := by
  have cut := take_filter_take (firstOfEach_nodup es) e.ingestId 9
  simp only [pushFront, firstOfEach, capacity, List.take_succ_cons, cut]

theorem ofEntries_eq (es : List RecentIngest) :
    ofEntries es = ⟨(firstOfEach es).take capacity⟩ := by
  induction es with
  | nil => rfl
  | cons e es ih =>
    rw [← pushFront_take, ← ih]
    rfl

/-- What a history may hold: no ingest twice, and not too much. -/
def IsHistory (es : List RecentIngest) : Prop :=
  (es.map (·.ingestId)).Nodup ∧ es.length ≤ capacity

theorem isHistory_take_firstOfEach (es : List RecentIngest) :
    IsHistory ((firstOfEach es).take capacity) :=
  ⟨(firstOfEach_nodup es).sublist ((List.take_sublist _ _).map _), List.length_take_le _ _⟩

/-- A history that has been put down is taken up as it was. -/
theorem ofEntries_of_isHistory {es : List RecentIngest} (h : IsHistory es) :
    ofEntries es = ⟨es⟩ := by
  rw [ofEntries_eq, firstOfEach_of_nodup h.1, List.take_of_length_le h.2]

end RecentIngests

end IngestViewer
