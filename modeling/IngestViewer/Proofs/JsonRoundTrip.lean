import IngestViewer.Proofs.JsonGrammar
import IngestViewer.Proofs.LiteralRoundTrip
import IngestViewer.Proofs.NumberRoundTrip

namespace IngestViewer.Json

mutual

/-- Values that can be written so that reading gives them back: all their numbers are legible. -/
def IsLegible : Json → Prop
  | number n => n.IsLegible
  | array xs => AreLegibleItems xs
  | object ms => AreLegibleMembers ms
  | _ => True

def AreLegibleItems : List Json → Prop
  | [] => True
  | x :: xs => IsLegible x ∧ AreLegibleItems xs

def AreLegibleMembers : Members → Prop
  | [] => True
  | (_, v) :: ms => IsLegible v ∧ AreLegibleMembers ms

end

theorem spaced_of_bare {p : List Char → Prop} {cs : List Char} (h : p cs) : Spaced p cs :=
  ⟨[], cs, [], by simp [AreSpaces], h, by simp [AreSpaces], by simp⟩

mutual

theorem spells_write : ∀ j : Json, j.IsLegible → Spells j j.write
  | null, _ => rfl
  | bool true, _ => rfl
  | bool false, _ => rfl
  | number _, legible => spellsNumber_spelled legible
  | string s, _ => spellsLiteral_writeLiteral s
  | array xs, legible => ⟨_, spellsItems_write xs legible, rfl⟩
  | object ms, legible => ⟨_, spellsMembers_write ms legible, rfl⟩

theorem spellsItems_write : ∀ xs : List Json, AreLegibleItems xs → SpellsItems xs (writeItems xs)
  | [], _ => by simp [SpellsItems, writeItems, AreSpaces]
  | [x], legible => spaced_of_bare (spells_write x legible.1)
  | x :: y :: ys, legible =>
    ⟨_, _, spaced_of_bare (spells_write x legible.1), spellsItems_write (y :: ys) legible.2, rfl⟩

theorem spellsMembers_write : ∀ ms : Members, AreLegibleMembers ms →
    SpellsMembers ms (writeMembers ms)
  | [], _ => by simp [SpellsMembers, writeMembers, AreSpaces]
  | [(name, v)], legible =>
    ⟨_, _, spaced_of_bare (spellsLiteral_writeLiteral name),
      spaced_of_bare (spells_write v legible.1), rfl⟩
  | (name, v) :: m :: ms, legible =>
    ⟨_, _, ⟨_, _, spaced_of_bare (spellsLiteral_writeLiteral name),
      spaced_of_bare (spells_write v legible.1), rfl⟩, spellsMembers_write (m :: ms) legible.2, rfl⟩

end

theorem areSpaces_newLine (depth : Nat) : AreSpaces (newLine depth) := by
  intro c inside
  obtain rfl | blank := List.mem_cons.mp inside
  · rfl
  · rw [List.eq_of_mem_replicate blank]
    rfl

mutual

theorem spells_writePretty : ∀ (j : Json) (depth : Nat), j.IsLegible →
    Spells j (writePretty depth j)
  | null, _, _ => rfl
  | bool true, _, _ => rfl
  | bool false, _, _ => rfl
  | number _, _, legible => spellsNumber_spelled legible
  | string s, _, _ => spellsLiteral_writeLiteral s
  | array [], _, _ => ⟨[], by simp [SpellsItems, AreSpaces], rfl⟩
  | array (x :: xs), depth, legible =>
    ⟨_, spellsItems_writePretty x xs (depth + 1) (areSpaces_newLine depth) legible, by
      simp [writePretty]⟩
  | object [], _, _ => ⟨[], by simp [SpellsMembers, AreSpaces], rfl⟩
  | object ((name, v) :: ms), depth, legible =>
    ⟨_, spellsMembers_writePretty name v ms (depth + 1) (areSpaces_newLine depth) legible, by
      simp [writePretty]⟩
termination_by j => sizeOf j

theorem spellsItems_writePretty : ∀ (x : Json) (xs : List Json) (depth : Nat) {after : List Char},
    AreSpaces after → AreLegibleItems (x :: xs) → SpellsItems (x :: xs)
      (newLine depth ++ (writePretty depth x ++ (writePrettyItems depth xs ++ after)))
  | x, [], depth, after, spaces, legible =>
    ⟨newLine depth, _, after, areSpaces_newLine depth, spells_writePretty x depth legible.1, spaces,
      rfl⟩
  | x, y :: ys, depth, after, spaces, legible => by
    have first := spells_writePretty x depth legible.1
    have others := spellsItems_writePretty y ys depth spaces legible.2
    refine ⟨newLine depth ++ writePretty depth x, _,
      (spaced_of_bare first).append (areSpaces_newLine depth), others, ?_⟩
    simp [writePrettyItems]
termination_by x xs => sizeOf (x :: xs)

theorem spellsMembers_writePretty : ∀ (name : Literal) (v : Json) (ms : Members) (depth : Nat)
    {after : List Char}, AreSpaces after → AreLegibleMembers ((name, v) :: ms) →
    SpellsMembers ((name, v) :: ms) (newLine depth ++ (writeLiteral name ++ (": ".toList ++
      (writePretty depth v ++ (writePrettyMembers depth ms ++ after)))))
  | name, v, [], depth, after, spaces, legible => by
    have value := spells_writePretty v depth legible.1
    refine ⟨newLine depth ++ writeLiteral name, ' ' :: (writePretty depth v ++ after),
      (spaced_of_bare (spellsLiteral_writeLiteral name)).append (areSpaces_newLine depth),
      ⟨[' '], _, after, by simp [AreSpaces, isSpace], value, spaces, rfl⟩, ?_⟩
    simp [writePrettyMembers]
  | name, v, (name', v') :: ms, depth, after, spaces, legible => by
    have value := spells_writePretty v depth legible.1
    have others := spellsMembers_writePretty name' v' ms depth spaces legible.2
    refine ⟨newLine depth ++ (writeLiteral name ++ (": ".toList ++ writePretty depth v)), _,
      ⟨newLine depth ++ writeLiteral name, ' ' :: writePretty depth v,
        (spaced_of_bare (spellsLiteral_writeLiteral name)).append (areSpaces_newLine depth),
        (spaced_of_bare value).append (show AreSpaces [' '] by simp [AreSpaces, isSpace]), ?_⟩,
      others, ?_⟩
    · simp
    · simp [writePrettyMembers]
termination_by name v ms => sizeOf ((name, v) :: ms)

end

/-- Reading is the inverse of writing. -/
theorem read_compact {j : Json} (legible : j.IsLegible) : read j.compact = some j := by
  refine read_eq_some_iff.mpr (spaced_of_bare ?_)
  rw [compact, String.toList_ofList]
  exact spells_write j legible

theorem isSpelled_pretty {j : Json} (legible : j.IsLegible) : IsSpelled j j.pretty := by
  refine spaced_of_bare ?_
  rw [pretty, String.toList_ofList]
  exact spells_writePretty j 0 legible

end IngestViewer.Json
