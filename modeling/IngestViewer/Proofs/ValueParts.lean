import IngestViewer.Proofs.SettledJson

namespace IngestViewer.Json

mutual

/-- Whether something holds of a value and of all values that stand in it. -/
def allParts (p : Json → Bool) : Json → Bool
  | array xs => p (array xs) && allItems p xs
  | object ms => p (object ms) && allMembers p ms
  | j => p j

def allItems (p : Json → Bool) : List Json → Bool
  | [] => true
  | x :: xs => allParts p x && allItems p xs

def allMembers (p : Json → Bool) : Members → Bool
  | [] => true
  | (_, v) :: ms => allParts p v && allMembers p ms

end

mutual

/-- How deep the containers of a value are nested. -/
def depth : Json → Nat
  | array xs => depthOfItems xs + 1
  | object ms => depthOfMembers ms + 1
  | _ => 0

def depthOfItems : List Json → Nat
  | [] => 0
  | x :: xs => max (depth x) (depthOfItems xs)

def depthOfMembers : Members → Nat
  | [] => 0
  | (_, v) :: ms => max (depth v) (depthOfMembers ms)

end

/-- Whether every number in a value is that of a double. -/
def hasFiniteNumbers : Json → Bool :=
  allParts fun
    | number n => n.isFinite
    | _ => true

/-- Whether every literal in a value stands for a text, the names of members included. -/
def hasTexts : Json → Bool :=
  allParts fun
    | string s => s.isSome
    | object ms => ms.all (·.1.isSome)
    | _ => true

/-- Whether no object in a value repeats the name of a member. -/
def namesOnce : Json → Bool :=
  allParts fun
    | object ms => decide (ms.map Prod.fst).Nodup
    | _ => true

section

variable {p : Json → Bool} {xs : List Json} {ms : Members}

theorem allItems_iff : allItems p xs = true ↔ ∀ x ∈ xs, x.allParts p = true := by
  induction xs with
  | nil => simp [allItems]
  | cons x xs ih => simp [allItems, ih]

theorem allMembers_iff : allMembers p ms = true ↔ ∀ m ∈ ms, m.2.allParts p = true := by
  induction ms with
  | nil => simp [allMembers]
  | cons m ms ih => simp [allMembers, ih]

theorem depthOfItems_le_iff {n : Nat} : depthOfItems xs ≤ n ↔ ∀ x ∈ xs, x.depth ≤ n := by
  induction xs with
  | nil => simp [depthOfItems]
  | cons x xs ih => rw [depthOfItems, Nat.max_le, ih, List.forall_mem_cons]

theorem depthOfMembers_le_iff {n : Nat} : depthOfMembers ms ≤ n ↔ ∀ m ∈ ms, m.2.depth ≤ n := by
  induction ms with
  | nil => simp [depthOfMembers]
  | cons m ms ih => rw [depthOfMembers, Nat.max_le, ih, List.forall_mem_cons]

theorem hasFiniteNumbers_array :
    (array xs).hasFiniteNumbers = true ↔ ∀ x ∈ xs, x.hasFiniteNumbers = true := by
  simp only [hasFiniteNumbers, allParts, Bool.true_and, allItems_iff]

theorem hasFiniteNumbers_object :
    (object ms).hasFiniteNumbers = true ↔ ∀ m ∈ ms, m.2.hasFiniteNumbers = true := by
  simp only [hasFiniteNumbers, allParts, Bool.true_and, allMembers_iff]

theorem hasTexts_array : (array xs).hasTexts = true ↔ ∀ x ∈ xs, x.hasTexts = true := by
  simp only [hasTexts, allParts, Bool.true_and, allItems_iff]

theorem hasTexts_object : (object ms).hasTexts = true ↔
    (∀ m ∈ ms, m.1.isSome = true) ∧ ∀ m ∈ ms, m.2.hasTexts = true := by
  simp only [hasTexts, allParts, Bool.and_eq_true, List.all_eq_true, allMembers_iff]

theorem namesOnce_array : (array xs).namesOnce = true ↔ ∀ x ∈ xs, x.namesOnce = true := by
  simp only [namesOnce, allParts, Bool.true_and, allItems_iff]

theorem namesOnce_object : (object ms).namesOnce = true ↔
    (ms.map Prod.fst).Nodup ∧ ∀ m ∈ ms, m.2.namesOnce = true := by
  simp only [namesOnce, allParts, Bool.and_eq_true, decide_eq_true_eq, allMembers_iff]

end

-- The parts of a container share the bound, which goes down by one with the container.
mutual

theorem isSound_iff : ∀ (n : Nat) (j : Json), j.isSound n = true ↔
    j.depth ≤ n ∧ j.hasFiniteNumbers = true ∧ j.hasTexts = true
  | _, null | _, bool _ | _, number _ | _, string _ => by
    simp [isSound, depth, hasFiniteNumbers, hasTexts, allParts]
  | 0, array _ | 0, object _ => by simp [isSound, depth]
  | n + 1, array xs => by
    simp only [isSound, areSoundItems_iff, depth, Nat.add_le_add_iff_right, depthOfItems_le_iff,
      hasFiniteNumbers_array, hasTexts_array, ← forall_and]
    exact forall₂_congr (isSound_item_iff n xs)
  | n + 1, object ms => by
    have parts : ∀ m ∈ ms, m.1.isSome = true ∧ m.2.isSound n = true ↔
        m.2.depth ≤ n ∧ m.2.hasFiniteNumbers = true ∧ m.1.isSome = true ∧ m.2.hasTexts = true := by
      intro m among
      rw [isSound_member_iff n ms m among, and_left_comm, and_left_comm (a := m.1.isSome = true)]
    simp only [isSound, areSoundMembers_iff, depth, Nat.add_le_add_iff_right,
      depthOfMembers_le_iff, hasFiniteNumbers_object, hasTexts_object, ← forall_and]
    exact forall₂_congr parts

theorem isSound_item_iff : ∀ (n : Nat) (xs : List Json), ∀ x ∈ xs, x.isSound n = true ↔
    x.depth ≤ n ∧ x.hasFiniteNumbers = true ∧ x.hasTexts = true
  | _, [] => nofun
  | n, x :: xs => List.forall_mem_cons.mpr ⟨isSound_iff n x, isSound_item_iff n xs⟩

theorem isSound_member_iff : ∀ (n : Nat) (ms : Members), ∀ m ∈ ms, m.2.isSound n = true ↔
    m.2.depth ≤ n ∧ m.2.hasFiniteNumbers = true ∧ m.2.hasTexts = true
  | _, [] => nofun
  | n, (_, v) :: ms => List.forall_mem_cons.mpr ⟨isSound_iff n v, isSound_member_iff n ms⟩

end

/-- What is sound at a depth is sound wherever containers may be nested deeper. -/
theorem isSound_of_le {j : Json} {depth depth' : Nat} (le : depth ≤ depth')
    (sound : j.isSound depth = true) : j.isSound depth' = true := by
  obtain ⟨nested, parts⟩ := (isSound_iff depth j).mp sound
  exact (isSound_iff depth' j).mpr ⟨Nat.le_trans nested le, parts⟩

mutual

theorem lastWins_of_namesOnce : ∀ (j : Json), j.namesOnce = true → j.lastWins = j
  | null, _ | bool _, _ | number _, _ | string _, _ => by simp [lastWins]
  | array xs, h => by
    rw [lastWins, lastWinsItems_eq_map, List.map_congr_left (g := id), List.map_id]
    exact fun x among => lastWins_item_of_namesOnce xs x among (namesOnce_array.mp h x among)
  | object ms, h => by
    obtain ⟨nodup, parts⟩ := namesOnce_object.mp h
    rw [lastWins, lastWinsMembers_of_nodup nodup, List.map_congr_left (g := id), List.map_id]
    intro m among
    exact Prod.ext rfl (lastWins_member_of_namesOnce ms m among (parts m among))

theorem lastWins_item_of_namesOnce : ∀ (xs : List Json), ∀ x ∈ xs, x.namesOnce = true →
    x.lastWins = x
  | [] => nofun
  | x :: xs => List.forall_mem_cons.mpr ⟨lastWins_of_namesOnce x, lastWins_item_of_namesOnce xs⟩

theorem lastWins_member_of_namesOnce : ∀ (ms : Members), ∀ m ∈ ms, m.2.namesOnce = true →
    m.2.lastWins = m.2
  | [] => nofun
  | (_, v) :: ms =>
    List.forall_mem_cons.mpr ⟨lastWins_of_namesOnce v, lastWins_member_of_namesOnce ms⟩

end

end IngestViewer.Json
