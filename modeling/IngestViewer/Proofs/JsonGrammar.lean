import IngestViewer.Proofs.JsonTokens

namespace IngestViewer.Json

def AreSpaces (cs : List Char) : Prop := ∀ c ∈ cs, isSpace c = true

/-- The texts of a kind with white space around them. -/
def Spaced (p : List Char → Prop) (cs : List Char) : Prop :=
  ∃ before inner after, AreSpaces before ∧ p inner ∧ AreSpaces after ∧
    cs = before ++ (inner ++ after)

/-- A text of one kind and a text of another with a mark between them. -/
def Joined (mark : Char) (p q : List Char → Prop) (cs : List Char) : Prop :=
  ∃ front back, p front ∧ q back ∧ cs = front ++ mark :: back

mutual

/-- The spellings of a value, without white space around it. -/
def Spells : Json → List Char → Prop
  | null, cs => cs = "null".toList
  | bool true, cs => cs = "true".toList
  | bool false, cs => cs = "false".toList
  | number n, cs => SpellsNumber n cs
  | string s, cs => SpellsLiteral s cs
  | array xs, cs => ∃ inner, SpellsItems xs inner ∧ cs = '[' :: (inner ++ [']'])
  | object ms, cs => ∃ inner, SpellsMembers ms inner ∧ cs = '{' :: (inner ++ ['}'])

def SpellsItems : List Json → List Char → Prop
  | [], cs => AreSpaces cs
  | [x], cs => Spaced (Spells x) cs
  | x :: y :: ys, cs => Joined ',' (Spaced (Spells x)) (SpellsItems (y :: ys)) cs

def SpellsMembers : Members → List Char → Prop
  | [], cs => AreSpaces cs
  | [(name, v)], cs => Joined ':' (Spaced (SpellsLiteral name)) (Spaced (Spells v)) cs
  | (name, v) :: m :: ms, cs =>
    Joined ',' (Joined ':' (Spaced (SpellsLiteral name)) (Spaced (Spells v)))
      (SpellsMembers (m :: ms)) cs

end

/-- Whether a text spells a value and nothing else. -/
def IsSpelled (j : Json) (s : String) : Prop := Spaced (Spells j) s.toList

section Spaces

variable {before cs : List Char}

theorem skipSpace_cons {c : Char} (h : isSpace c = false) (cs : List Char) :
    skipSpace (c :: cs) = c :: cs := by
  simp [skipSpace, h]

theorem skipSpace_append (spaces : AreSpaces before) (cs : List Char) :
    skipSpace (before ++ cs) = skipSpace cs :=
  List.dropWhile_append_of_pos spaces

theorem exists_skipSpace (cs : List Char) :
    ∃ before, AreSpaces before ∧ cs = before ++ skipSpace cs :=
  ⟨cs.takeWhile isSpace, List.all_eq_true.mp List.all_takeWhile,
    List.takeWhile_append_dropWhile.symm⟩

theorem readValue_append (spaces : AreSpaces before) (n : Nat) (cs : List Char) :
    readValue n (before ++ cs) = readValue n cs := by
  cases n with
  | zero => rw [readValue, readValue]
  | succ n => rw [readValue, readValue, skipSpace_append spaces]

theorem readItems_append (spaces : AreSpaces before) (n : Nat) (cs : List Char) :
    readItems n (before ++ cs) = readItems n cs := by
  cases n with
  | zero => rw [readItems, readItems]
  | succ n => rw [readItems, readItems, readValue_append spaces]

theorem readMembers_append (spaces : AreSpaces before) (n : Nat) (cs : List Char) :
    readMembers n (before ++ cs) = readMembers n cs := by
  cases n with
  | zero => rw [readMembers, readMembers]
  | succ n => rw [readMembers, readMembers, skipSpace_append spaces]

theorem endsNumber_cons {c : Char} (h : c = ',' ∨ c = ']' ∨ c = '}') (cs : List Char) :
    EndsNumber (c :: cs) := by
  rintro d ⟨⟩
  rcases h with rfl | rfl | rfl <;> decide

theorem endsNumber_of_spaces (spaces : AreSpaces before) {rest : List Char}
    (ends : EndsNumber rest) : EndsNumber (before ++ rest) := by
  cases before with
  | nil => exact ends
  | cons c before =>
    have space := spaces c List.mem_cons_self
    rintro d ⟨⟩
    simp only [isSpace, Bool.or_eq_true, beq_iff_eq] at space
    obtain ((rfl | rfl) | rfl) | rfl := space
    all_goals decide

theorem AreSpaces.append (spaces : AreSpaces before) (more : AreSpaces cs) :
    AreSpaces (before ++ cs) :=
  List.forall_mem_append.mpr ⟨spaces, more⟩

theorem Spaced.append {p : List Char → Prop} (spaces : AreSpaces before) (h : Spaced p cs) :
    Spaced p (before ++ cs) := by
  obtain ⟨front, inner, after, spacesFront, part, spacesAfter, rfl⟩ := h
  exact ⟨before ++ front, inner, after, spaces.append spacesFront, part, spacesAfter, by simp⟩

theorem Joined.append {mark : Char} {p q : List Char → Prop}
    (first : ∀ cs, p cs → p (before ++ cs)) (h : Joined mark p q cs) :
    Joined mark p q (before ++ cs) := by
  obtain ⟨front, back, one, other, rfl⟩ := h
  exact ⟨before ++ front, back, first front one, other, by simp⟩

theorem SpellsItems.append {xs : List Json} (spaces : AreSpaces before) (h : SpellsItems xs cs) :
    SpellsItems xs (before ++ cs) := by
  match xs with
  | [] => exact spaces.append h
  | [x] => exact Spaced.append spaces h
  | x :: y :: ys => exact Joined.append (fun _ => Spaced.append spaces) h

theorem SpellsMembers.append {ms : Members} (spaces : AreSpaces before) (h : SpellsMembers ms cs) :
    SpellsMembers ms (before ++ cs) := by
  match ms with
  | [] => exact spaces.append h
  | [(name, v)] => exact Joined.append (fun _ => Spaced.append spaces) h
  | (name, v) :: m :: ms =>
    exact Joined.append (fun _ => Joined.append fun _ => Spaced.append spaces) h

end Spaces

/-- A value begins with no white space, and with nothing that closes an array or an object. -/
theorem Spells.eq_cons {j : Json} {cs : List Char} (h : Spells j cs) :
    ∃ c tail, cs = c :: tail ∧ isSpace c = false ∧ c ≠ ']' ∧ c ≠ '}' := by
  match j, h with
  | null, h => exact ⟨'n', _, h, by decide⟩
  | bool true, h => exact ⟨'t', _, h, by decide⟩
  | bool false, h => exact ⟨'f', _, h, by decide⟩
  | number n, h =>
    obtain ⟨c, tail, rfl, first⟩ := SpellsNumber.eq_cons h
    refine ⟨c, tail, rfl, ?_⟩
    obtain rfl | digit := first
    · decide
    · simp only [isSpace, Bool.or_eq_false_iff, beq_eq_false_iff_ne]
      refine ⟨⟨⟨⟨?_, ?_⟩, ?_⟩, ?_⟩, ?_, ?_⟩ <;> (rintro rfl; simp at digit)
  | string s, h =>
    obtain ⟨ps, ds, -, -, rfl⟩ := h
    exact ⟨'"', _, rfl, by decide⟩
  | array xs, h =>
    obtain ⟨inner, -, rfl⟩ := h
    exact ⟨'[', _, rfl, by decide⟩
  | object ms, h =>
    obtain ⟨inner, -, rfl⟩ := h
    exact ⟨'{', _, rfl, by decide⟩

section Completeness

/-- A value with white space around it is read as far as the mark behind it. -/
theorem readValue_of_spaced {x : Json} {n : Nat} {cs : List Char}
    (reads : ∀ cs rest, Spells x cs → EndsNumber rest → cs.length ≤ n →
      readValue n (cs ++ rest) = some (x, rest))
    (h : Spaced (Spells x) cs) (enough : cs.length ≤ n) (mark : Char) (space : isSpace mark = false)
    (closes : mark = ',' ∨ mark = ']' ∨ mark = '}') (rest : List Char) :
    ∃ left, readValue n (cs ++ mark :: rest) = some (x, left) ∧ skipSpace left = mark :: rest := by
  obtain ⟨before, inner, after, spacesBefore, spelled, spacesAfter, rfl⟩ := h
  have ends := endsNumber_of_spaces spacesAfter (endsNumber_cons closes rest)
  have read := reads inner _ spelled ends (by simp at enough; omega)
  refine ⟨after ++ mark :: rest, ?_, ?_⟩
  · rw [List.append_assoc, readValue_append spacesBefore, List.append_assoc, read]
  · rw [skipSpace_append spacesAfter, skipSpace_cons space]

theorem readLiteral_of_spaced {s : Literal} {cs : List Char} (h : Spaced (SpellsLiteral s) cs)
    (rest : List Char) :
    ∃ r left, skipSpace (cs ++ ':' :: rest) = '"' :: r ∧ readLiteral r = some (s, left) ∧
      readColon left = some rest := by
  obtain ⟨before, inner, after, spacesBefore, spelled, spacesAfter, rfl⟩ := h
  obtain ⟨ds, rfl, read⟩ := readLiteral_of_spelled spelled (after ++ ':' :: rest)
  refine ⟨_, _, ?_, read, ?_⟩
  · rw [List.append_assoc, skipSpace_append spacesBefore, List.cons_append, List.cons_append,
      skipSpace_cons (by decide), List.append_assoc]
  · rw [readColon, skipSpace_append spacesAfter, skipSpace_cons (by decide)]
    rfl

/-- What stands in an array that is not empty begins with no bracket. -/
theorem SpellsItems.eq_cons {x : Json} {xs : List Json} {cs : List Char}
    (h : SpellsItems (x :: xs) cs) : ∃ before c tail, AreSpaces before ∧ isSpace c = false ∧
      c ≠ ']' ∧ cs = before ++ c :: tail := by
  have spaced : ∀ cs, Spaced (Spells x) cs → ∃ before c tail, AreSpaces before ∧
      isSpace c = false ∧ c ≠ ']' ∧ cs = before ++ c :: tail := by
    rintro cs ⟨before, inner, after, spaces, spelled, -, rfl⟩
    obtain ⟨c, tail, rfl, solid, other, -⟩ := spelled.eq_cons
    exact ⟨before, c, _, spaces, solid, other, rfl⟩
  cases xs with
  | nil => exact spaced cs h
  | cons y ys =>
    obtain ⟨front, back, first, -, rfl⟩ := h
    obtain ⟨before, c, tail, spaces, solid, other, rfl⟩ := spaced front first
    exact ⟨before, c, _, spaces, solid, other, List.append_assoc ..⟩

theorem SpellsMembers.eq_cons {m : Literal × Json} {ms : Members} {cs : List Char}
    (h : SpellsMembers (m :: ms) cs) :
    ∃ before tail, AreSpaces before ∧ cs = before ++ '"' :: tail := by
  obtain ⟨name, v⟩ := m
  have member : ∀ cs, Joined ':' (Spaced (SpellsLiteral name)) (Spaced (Spells v)) cs →
      ∃ before tail, AreSpaces before ∧ cs = before ++ '"' :: tail := by
    rintro cs ⟨front, back, ⟨before, inner, after, spaces, ⟨ps, ds, -, -, rfl⟩, -, rfl⟩, -, rfl⟩
    exact ⟨before, _, spaces, by simp; rfl⟩
  cases ms with
  | nil => exact member cs h
  | cons m ms =>
    obtain ⟨front, back, first, -, rfl⟩ := h
    obtain ⟨before, tail, spaces, rfl⟩ := member front first
    exact ⟨before, _, spaces, List.append_assoc ..⟩

/-- An array whose closing bracket does not come first is read item by item. -/
theorem readValue_array {n : Nat} {c : Char} (space : isSpace c = false) (close : c ≠ ']')
    (cs : List Char) :
    readValue (n + 1) ('[' :: c :: cs) =
      (readItems n (c :: cs)).map fun p => (array p.1, p.2) := by
  rw [readValue, skipSpace_cons (by decide)]
  simp only [skipSpace_cons space]
  split <;> simp_all

theorem readValue_object {n : Nat} {c : Char} (space : isSpace c = false) (close : c ≠ '}')
    (cs : List Char) :
    readValue (n + 1) ('{' :: c :: cs) =
      (readMembers n (c :: cs)).map fun p => (object p.1, p.2) := by
  rw [readValue, skipSpace_cons (by decide)]
  simp only [skipSpace_cons space]
  split <;> simp_all

theorem readValue_of_items {x : Json} {xs : List Json} {cs : List Char}
    (h : SpellsItems (x :: xs) cs) (n : Nat) (rest : List Char) :
    readValue (n + 1) ('[' :: (cs ++ rest)) =
      (readItems n (cs ++ rest)).map fun p => (array p.1, p.2) := by
  obtain ⟨before, c, tail, spaces, solid, other, rfl⟩ := h.eq_cons
  rw [List.append_assoc, List.cons_append, readItems_append spaces, ← readValue_array solid other,
    readValue, readValue, skipSpace_cons (by decide), skipSpace_cons (by decide)]
  simp only [skipSpace_append spaces]

theorem readValue_of_members {m : Literal × Json} {ms : Members} {cs : List Char}
    (h : SpellsMembers (m :: ms) cs) (n : Nat) (rest : List Char) :
    readValue (n + 1) ('{' :: (cs ++ rest)) =
      (readMembers n (cs ++ rest)).map fun p => (object p.1, p.2) := by
  obtain ⟨before, tail, spaces, rfl⟩ := h.eq_cons
  rw [List.append_assoc, List.cons_append, readMembers_append spaces,
    ← readValue_object (by decide) (by decide), readValue, readValue, skipSpace_cons (by decide),
    skipSpace_cons (by decide)]
  simp only [skipSpace_append spaces]

theorem readValue_of_number {m : Number} {cs rest : List Char} (h : SpellsNumber m cs)
    (ends : EndsNumber rest) (n : Nat) :
    readValue (n + 1) (cs ++ rest) = some (number m, rest) := by
  have read := readNumber_of_spelled h ends
  obtain ⟨c, tail, rfl, first⟩ := h.eq_cons
  have solid : isSpace c = false ∧ c ∉ ['[', '{', '"', 'n', 't', 'f'] := by
    obtain rfl | digit := first
    · decide
    · refine ⟨?_, fun mark => ?_⟩
      · simp only [isSpace, Bool.or_eq_false_iff, beq_eq_false_iff_ne]
        refine ⟨⟨⟨?_, ?_⟩, ?_⟩, ?_⟩ <;> (rintro rfl; simp at digit)
      · simp only [List.mem_cons, List.not_mem_nil, or_false] at mark
        obtain rfl | rfl | rfl | rfl | rfl | rfl := mark
        all_goals simp at digit
  obtain ⟨space, apart⟩ := solid
  simp only [List.mem_cons, List.not_mem_nil, or_false, not_or] at apart
  obtain ⟨bracket, brace, quote, n', t, f⟩ := apart
  rw [List.cons_append] at read ⊢
  have scalar : readScalar (c :: (tail ++ rest)) = some (number m, rest) := by
    rw [readScalar, read, Option.map_some]
    all_goals simp_all
  rw [readValue, skipSpace_cons space, ← scalar]
  split <;> simp_all

-- The recursion is on the value. The bound covers the characters: a container has two brackets
-- beside what stands in it, an item or a member a mark behind it.
mutual

theorem readValue_of_spelled : ∀ (j : Json) (n : Nat) (cs rest : List Char), Spells j cs →
    EndsNumber rest → cs.length ≤ n → readValue n (cs ++ rest) = some (j, rest)
  | null, n + 1, _, rest, rfl, _, _ => rfl
  | bool true, n + 1, _, rest, rfl, _, _ => rfl
  | bool false, n + 1, _, rest, rfl, _, _ => rfl
  | number m, n + 1, cs, rest, h, ends, _ => readValue_of_number h ends n
  | string s, n + 1, cs, rest, h, _, _ => by
    obtain ⟨ds, rfl, read⟩ := readLiteral_of_spelled h rest
    rw [List.cons_append, readValue, skipSpace_cons (by decide)]
    simp [read]
  | array [], n + 1, _, rest, ⟨inner, spaces, rfl⟩, _, _ => by
    have close : skipSpace (inner ++ [']'] ++ rest) = ']' :: rest := by
      rw [List.append_assoc, skipSpace_append spaces, List.singleton_append,
        skipSpace_cons (by decide)]
    rw [List.cons_append, readValue, skipSpace_cons (by decide)]
    simp only [close]
  | array (x :: xs), n + 1, _, rest, ⟨inner, items, rfl⟩, _, enough => by
    have read := readItems_of_spelled x xs n inner rest items (by
      simp only [List.length_append, List.length_cons, List.length_nil] at enough
      omega)
    rw [List.cons_append, List.append_assoc, List.singleton_append, readValue_of_items items, read,
      Option.map_some]
  | object [], n + 1, _, rest, ⟨inner, spaces, rfl⟩, _, _ => by
    have close : skipSpace (inner ++ ['}'] ++ rest) = '}' :: rest := by
      rw [List.append_assoc, skipSpace_append spaces, List.singleton_append,
        skipSpace_cons (by decide)]
    rw [List.cons_append, readValue, skipSpace_cons (by decide)]
    simp only [close]
  | object (m :: ms), n + 1, _, rest, ⟨inner, members, rfl⟩, _, enough => by
    have read := readMembers_of_spelled m ms n inner rest members (by
      simp only [List.length_append, List.length_cons, List.length_nil] at enough
      omega)
    rw [List.cons_append, List.append_assoc, List.singleton_append, readValue_of_members members,
      read, Option.map_some]
  | j, 0, cs, _, h, _, enough => by
    obtain ⟨c, tail, rfl, -⟩ := Spells.eq_cons h
    simp at enough

theorem readItems_of_spelled : ∀ (x : Json) (xs : List Json) (n : Nat) (cs rest : List Char),
    SpellsItems (x :: xs) cs → cs.length < n →
    readItems n (cs ++ ']' :: rest) = some (x :: xs, rest)
  | x, [], n + 1, cs, rest, h, enough => by
    obtain ⟨left, read, mark⟩ := readValue_of_spaced (readValue_of_spelled x n) h
      (Nat.lt_succ_iff.mp enough) ']' (by decide) (by simp) rest
    rw [readItems, read]
    simp [mark]
  | x, y :: ys, n + 1, _, rest, ⟨front, back, first, others, rfl⟩, enough => by
    simp only [List.length_append, List.length_cons] at enough
    obtain ⟨left, read, mark⟩ := readValue_of_spaced (readValue_of_spelled x n) first
      (by omega) ',' (by decide) (by simp) (back ++ ']' :: rest)
    have more := readItems_of_spelled y ys n back rest others (by omega)
    rw [List.append_assoc, List.cons_append, readItems, read]
    simp [mark, more]

theorem readMembers_of_spelled : ∀ (m : Literal × Json) (ms : Members) (n : Nat)
    (cs rest : List Char), SpellsMembers (m :: ms) cs → cs.length < n →
    readMembers n (cs ++ '}' :: rest) = some (m :: ms, rest)
  | (name, v), [], n + 1, _, rest, ⟨front, back, named, value, rfl⟩, enough => by
    simp only [List.length_append, List.length_cons] at enough
    obtain ⟨r, s, opened, literal, colon⟩ := readLiteral_of_spaced named (back ++ '}' :: rest)
    obtain ⟨left, read, mark⟩ := readValue_of_spaced (readValue_of_spelled v n) value
      (by omega) '}' (by decide) (by simp) rest
    rw [List.append_assoc, List.cons_append, readMembers, opened]
    simp [literal, colon, read, mark]
  | (name, v), m :: ms, n + 1, _, rest,
      ⟨_, others, ⟨front, back, named, value, rfl⟩, members, rfl⟩, enough => by
    simp only [List.length_append, List.length_cons] at enough
    obtain ⟨r, s, opened, literal, colon⟩ :=
      readLiteral_of_spaced named (back ++ ',' :: (others ++ '}' :: rest))
    obtain ⟨left, read, mark⟩ := readValue_of_spaced (readValue_of_spelled v n) value
      (by omega) ',' (by decide) (by simp) (others ++ '}' :: rest)
    have more := readMembers_of_spelled m ms n others rest members (by omega)
    simp only [List.append_assoc, List.cons_append]
    rw [readMembers, opened]
    simp [literal, colon, read, mark, more]

end

end Completeness

section Soundness

variable {n : Nat}

/-- What is read as a value spells it, behind white space. -/
def ReadsSpelledValues (n : Nat) : Prop :=
  ∀ cs j rest, readValue n cs = some (j, rest) →
    ∃ before inner, AreSpaces before ∧ Spells j inner ∧ cs = before ++ (inner ++ rest)

def ReadsSpelledItems (n : Nat) : Prop :=
  ∀ cs xs rest, readItems n cs = some (xs, rest) →
    xs ≠ [] ∧ ∃ inner, SpellsItems xs inner ∧ cs = inner ++ ']' :: rest

def ReadsSpelledMembers (n : Nat) : Prop :=
  ∀ cs ms rest, readMembers n cs = some (ms, rest) →
    ms ≠ [] ∧ ∃ inner, SpellsMembers ms inner ∧ cs = inner ++ '}' :: rest

theorem spells_of_readScalar {cs rest : List Char} {j : Json}
    (h : readScalar cs = some (j, rest)) : ∃ inner, Spells j inner ∧ cs = inner ++ rest := by
  unfold readScalar at h
  split at h
  · cases h
    exact ⟨_, rfl, rfl⟩
  · cases h
    exact ⟨_, rfl, rfl⟩
  · cases h
    exact ⟨_, rfl, rfl⟩
  · obtain ⟨⟨m, left⟩, read, whole⟩ := Option.map_eq_some_iff.mp h
    cases whole
    obtain ⟨inner, spelled, rfl⟩ := spellsNumber_of_readNumber read
    exact ⟨inner, spelled, rfl⟩

/-- What has been read up to a mark, with white space before it, is one spaced value. -/
theorem spaced_of_read (sound : ReadsSpelledValues n) {cs r rest : List Char} {x : Json}
    {mark : Char} (read : readValue n cs = some (x, r)) (skipped : skipSpace r = mark :: rest) :
    ∃ inner, Spaced (Spells x) inner ∧ cs = inner ++ mark :: rest := by
  obtain ⟨before, inner, spaces, spelled, rfl⟩ := sound cs x r read
  obtain ⟨after, spacesAfter, divided⟩ := exists_skipSpace r
  rw [skipped] at divided
  exact ⟨_, ⟨before, inner, after, spaces, spelled, spacesAfter, rfl⟩, by simp [divided]⟩

theorem readsSpelledValues_succ (items : ReadsSpelledItems n) (members : ReadsSpelledMembers n) :
    ReadsSpelledValues (n + 1) := by
  intro cs j rest h
  obtain ⟨before, spaces, divided⟩ := exists_skipSpace cs
  -- what is left once the white space is skipped decides how the reader goes on
  suffices inside : ∃ inner, Spells j inner ∧ skipSpace cs = inner ++ rest by
    obtain ⟨inner, spelled, same⟩ := inside
    exact ⟨before, inner, spaces, spelled, same ▸ divided⟩
  rw [readValue] at h
  split at h
  next r opened =>
    obtain ⟨front, spacesFront, dividedInner⟩ := exists_skipSpace r
    rw [opened]
    split at h
    next left closed =>
      cases h
      rw [closed] at dividedInner
      exact ⟨_, ⟨front, spacesFront, rfl⟩, by simp [dividedInner]⟩
    next =>
      obtain ⟨⟨xs, left⟩, read, whole⟩ := Option.map_eq_some_iff.mp h
      cases whole
      obtain ⟨-, inner, spelled, same⟩ := items _ _ _ read
      rw [same] at dividedInner
      exact ⟨_, ⟨_, spelled.append spacesFront, rfl⟩, by simp [dividedInner]⟩
  next r opened =>
    obtain ⟨front, spacesFront, dividedInner⟩ := exists_skipSpace r
    rw [opened]
    split at h
    next left closed =>
      cases h
      rw [closed] at dividedInner
      exact ⟨_, ⟨front, spacesFront, rfl⟩, by simp [dividedInner]⟩
    next =>
      obtain ⟨⟨ms, left⟩, read, whole⟩ := Option.map_eq_some_iff.mp h
      cases whole
      obtain ⟨-, inner, spelled, same⟩ := members _ _ _ read
      rw [same] at dividedInner
      exact ⟨_, ⟨_, spelled.append spacesFront, rfl⟩, by simp [dividedInner]⟩
  next r opened =>
    obtain ⟨⟨s, left⟩, read, whole⟩ := Option.map_eq_some_iff.mp h
    cases whole
    obtain ⟨ds, rfl, spelled⟩ := spellsLiteral_of_readLiteral read
    exact ⟨_, spelled, by rw [opened]; rfl⟩
  next => exact spells_of_readScalar h

theorem readsSpelledItems_succ (values : ReadsSpelledValues n) (items : ReadsSpelledItems n) :
    ReadsSpelledItems (n + 1) := by
  intro cs xs rest h
  simp only [readItems, Option.bind_eq_bind, Option.bind_eq_some_iff] at h
  obtain ⟨⟨x, r⟩, read, h⟩ := h
  dsimp only at h
  split at h
  next left closed =>
    cases h
    exact ⟨by simp, spaced_of_read values read closed⟩
  next left comma =>
    simp only [Option.bind_eq_some_iff] at h
    obtain ⟨⟨ys, left'⟩, others, whole⟩ := h
    cases whole
    obtain ⟨front, first, rfl⟩ := spaced_of_read values read comma
    obtain ⟨some, back, spelled, rfl⟩ := items _ _ _ others
    obtain ⟨y, ys, rfl⟩ := List.exists_cons_of_ne_nil some
    exact ⟨by simp, _, ⟨front, back, first, spelled, rfl⟩, by simp⟩
  next => cases h

theorem spaced_of_readLiteral {cs r left rest : List Char} {name : Literal}
    (opened : skipSpace cs = '"' :: r) (read : readLiteral r = some (name, left))
    (colon : readColon left = some rest) :
    ∃ front, Spaced (SpellsLiteral name) front ∧ cs = front ++ ':' :: rest := by
  obtain ⟨before, spacesBefore, divided⟩ := exists_skipSpace cs
  obtain ⟨ds, rfl, spelled⟩ := spellsLiteral_of_readLiteral read
  obtain ⟨after, spacesAfter, dividedAfter⟩ := exists_skipSpace left
  unfold readColon at colon
  split at colon
  next mark =>
    cases colon
    rw [mark] at dividedAfter
    rw [opened] at divided
    exact ⟨_, ⟨before, _, after, spacesBefore, spelled, spacesAfter, rfl⟩, by
      simp [divided, dividedAfter]⟩
  next => cases colon

theorem readsSpelledMembers_succ (values : ReadsSpelledValues n) (members : ReadsSpelledMembers n) :
    ReadsSpelledMembers (n + 1) := by
  intro cs ms rest h
  rw [readMembers] at h
  split at h
  next r opened =>
    simp only [Option.bind_eq_bind, Option.bind_eq_some_iff] at h
    obtain ⟨⟨name, r₁⟩, literal, r₂, colon, ⟨v, r₃⟩, read, h⟩ := h
    obtain ⟨front, named, rfl⟩ := spaced_of_readLiteral opened literal colon
    dsimp only at h
    split at h
    next left closed =>
      cases h
      obtain ⟨back, value, rfl⟩ := spaced_of_read values read closed
      exact ⟨by simp, _, ⟨front, back, named, value, rfl⟩, by simp⟩
    next left comma =>
      simp only [Option.bind_eq_some_iff] at h
      obtain ⟨⟨others, left'⟩, more, whole⟩ := h
      cases whole
      obtain ⟨back, value, rfl⟩ := spaced_of_read values read comma
      obtain ⟨some, inner, spelled, rfl⟩ := members _ _ _ more
      obtain ⟨m, others, rfl⟩ := List.exists_cons_of_ne_nil some
      exact ⟨by simp, _, ⟨_, inner, ⟨front, back, named, value, rfl⟩, spelled, rfl⟩, by simp⟩
    next => cases h
  next => cases h

theorem reads_spelled (n : Nat) :
    ReadsSpelledValues n ∧ ReadsSpelledItems n ∧ ReadsSpelledMembers n := by
  -- the three readers call each other with the bound below, so they are sound together
  induction n with
  | zero =>
    refine ⟨?_, ?_, ?_⟩
    · intro cs j rest h
      cases h
    · intro cs xs rest h
      cases h
    · intro cs ms rest h
      cases h
  | succ n ih =>
    obtain ⟨values, items, members⟩ := ih
    exact ⟨readsSpelledValues_succ items members, readsSpelledItems_succ values items,
      readsSpelledMembers_succ values members⟩

end Soundness

/-- A text is read as a value if and only if it spells it. -/
theorem read_eq_some_iff {s : String} {j : Json} : read s = some j ↔ IsSpelled j s := by
  constructor
  · intro h
    rw [read] at h
    split at h
    next v rest value =>
      split at h
      next empty =>
        cases h
        obtain ⟨before, inner, spaces, spelled, whole⟩ := (reads_spelled _).1 _ _ _ value
        obtain ⟨after, spacesAfter, divided⟩ := exists_skipSpace rest
        rw [List.isEmpty_iff.mp empty, List.append_nil] at divided
        exact ⟨before, inner, rest, spaces, spelled, divided ▸ spacesAfter, whole⟩
      next => cases h
    next => cases h
  · rintro ⟨before, inner, after, spaces, spelled, spacesAfter, whole⟩
    have enough : inner.length ≤ 2 * s.length + 2 := by
      have all := congrArg List.length whole
      simp only [List.length_append, String.length_toList] at all
      omega
    have ends : EndsNumber after := by
      have nothing : EndsNumber [] := by rintro c ⟨⟩
      have ends := endsNumber_of_spaces spacesAfter nothing
      rwa [List.append_nil] at ends
    have closed : skipSpace after = [] := by
      have skipped := skipSpace_append spacesAfter []
      rwa [List.append_nil] at skipped
    have value := readValue_of_spelled j _ inner after spelled ends enough
    rw [read, whole, readValue_append spaces, value]
    simp [closed]

theorem IsSpelled.eq {s : String} {j j' : Json} (h : IsSpelled j s) (h' : IsSpelled j' s) :
    j = j' :=
  Option.some.inj ((read_eq_some_iff.mpr h).symm.trans (read_eq_some_iff.mpr h'))

end IngestViewer.Json
