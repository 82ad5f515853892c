import IngestViewer.JsonFields
import IngestViewer.Proofs.JsonRoundTrip
import Mathlib.Data.List.Nodup

namespace IngestViewer.Json

theorem areLegibleItems_iff {xs : List Json} : AreLegibleItems xs ↔ ∀ x ∈ xs, x.IsLegible := by
  induction xs with
  | nil => simp [AreLegibleItems]
  | cons x xs ih => simp [AreLegibleItems, ih]

theorem areLegibleMembers_iff {ms : Members} :
    AreLegibleMembers ms ↔ ∀ m ∈ ms, m.2.IsLegible := by
  induction ms with
  | nil => simp [AreLegibleMembers]
  | cons m ms ih => simp [AreLegibleMembers, ih]

theorem areSoundItems_iff {depth : Nat} {xs : List Json} :
    areSoundItems depth xs = true ↔ ∀ x ∈ xs, x.isSound depth := by
  induction xs with
  | nil => simp [areSoundItems]
  | cons x xs ih => simp [areSoundItems, ih]

theorem areSoundMembers_iff {depth : Nat} {ms : Members} :
    areSoundMembers depth ms = true ↔ ∀ m ∈ ms, m.1.isSome ∧ m.2.isSound depth := by
  induction ms with
  | nil => simp [areSoundMembers]
  | cons m ms ih => simp [areSoundMembers, ih, and_assoc]

theorem lastWinsItems_eq_map (xs : List Json) : lastWinsItems xs = xs.map lastWins := by
  induction xs with
  | nil => rfl
  | cons x xs ih => simp [lastWinsItems, ih]

theorem lastWinsMembers_of_nodup {ms : Members} (nodup : (ms.map Prod.fst).Nodup) :
    lastWinsMembers ms = ms.map fun m => (m.1, m.2.lastWins) := by
  induction ms with
  | nil => rfl
  | cons m ms ih =>
    obtain ⟨fresh, nodup⟩ := List.nodup_cons.mp nodup
    have none : ms.any (·.1 == m.1) = false := by
      simp only [List.any_eq_false, beq_iff_eq]
      exact fun m' h eq => fresh (eq ▸ List.mem_map_of_mem h)
    simp [lastWinsMembers, none, ih nodup]

/-- A value that is the same however it is written and read: straight from its text, and held as a
whole with so many levels of containers. -/
structure IsSettled (depth : Nat) (j : Json) : Prop where
  legible : j.IsLegible
  sound : j.isSound depth
  unrepeated : j.lastWins = j

theorem settled_ofText (depth : Nat) (s : String) : IsSettled depth (ofText s) where
  legible := trivial
  sound := by simp [ofText, isSound]
  unrepeated := rfl

theorem settled_bool (depth : Nat) (b : Bool) : IsSettled depth (bool b) where
  legible := trivial
  sound := by simp [isSound]
  unrepeated := rfl

theorem settled_ofNat (depth : Nat) {n : Nat} (h : n < 0x10000000000000000) :
    IsSettled depth (ofNat n) where
  legible := by rintro ds ⟨⟩
  sound := by
    have exact : Number.isExact n = true := by simp [Number.isExact]; omega
    simp [ofNat, isSound, Number.isFinite, Number.text?, Number.integer?, exact]
  unrepeated := rfl

theorem settled_array {depth : Nat} {xs : List Json} (h : ∀ x ∈ xs, IsSettled depth x) :
    IsSettled (depth + 1) (array xs) where
  legible := areLegibleItems_iff.mpr fun x hx => (h x hx).legible
  sound := areSoundItems_iff.mpr fun x hx => (h x hx).sound
  unrepeated := by
    rw [lastWins, lastWinsItems_eq_map]
    congr 1
    exact (List.map_congr_left fun x hx => (h x hx).unrepeated).trans (List.map_id _)

theorem nodup_names_ofMembers {ms : List (String × Json)} (nodup : (ms.map Prod.fst).Nodup) :
    ((ms.map fun (name, v) => (some name, v)).map Prod.fst : List Literal).Nodup := by
  have names : (ms.map fun (name, v) => ((some name : Literal), v)).map Prod.fst =
      (ms.map Prod.fst).map some := by simp
  rw [names]
  exact List.Nodup.map (fun _ _ => Option.some.inj) nodup

theorem settled_ofMembers {depth : Nat} {ms : List (String × Json)}
    (nodup : (ms.map Prod.fst).Nodup) (h : ∀ m ∈ ms, IsSettled depth m.2) :
    IsSettled (depth + 1) (ofMembers ms) where
  legible := by
    refine areLegibleMembers_iff.mpr fun m hm => ?_
    obtain ⟨m', hm', rfl⟩ := List.mem_map.mp hm
    exact (h m' hm').legible
  sound := by
    refine areSoundMembers_iff.mpr fun m hm => ?_
    obtain ⟨m', hm', rfl⟩ := List.mem_map.mp hm
    exact ⟨rfl, (h m' hm').sound⟩
  unrepeated := by
    rw [ofMembers, lastWins, lastWinsMembers_of_nodup (nodup_names_ofMembers nodup), List.map_map]
    congr 1
    refine List.map_congr_left fun m hm => ?_
    simp [(h m hm).unrepeated]

/-- A settled value is read from its text in both ways. -/
theorem read_and_parse_compact {j : Json} (h : IsSettled depthLimit j) :
    read j.compact = some j ∧ parse j.compact = some j := by
  have straight := read_compact h.legible
  exact ⟨straight, by simp [parse, straight, h.sound, h.unrepeated]⟩

theorem lookup_map_some (name : String) (ms : List (String × Json)) :
    Members.find? name (ms.map fun (n, v) => (some n, v)) = ms.lookup name := by
  induction ms with
  | nil => rfl
  | cons m ms ih =>
    obtain ⟨n, v⟩ := m
    simp only [Members.find?, List.map_cons, List.lookup_cons] at ih ⊢
    rw [ih]
    rfl

/-- The fields of a written structure are its members. -/
theorem fields_ofMembers (names : List String) {ms : List (String × Json)}
    (nodup : (ms.map Prod.fst).Nodup) :
    fields names (ofMembers ms) = some fun name => ms.lookup name := by
  have named : (ms.map fun (name, v) => ((some name : Literal), v)).all (·.1.isSome) = true := by
    simp
  have once (name : String) :
      Members.count name (ms.map fun (name, v) => ((some name : Literal), v)) ≤ 1 := by
    have := List.nodup_iff_count_le_one.mp (nodup_names_ofMembers nodup) (some name)
    rwa [List.count, List.countP_map] at this
  simp [ofMembers, fields, named, once, lookup_map_some]

end IngestViewer.Json
