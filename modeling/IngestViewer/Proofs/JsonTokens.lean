import IngestViewer.JsonReader

namespace IngestViewer.Json

/-- The spellings of a piece of a string literal. -/
inductive SpellsPiece : Piece → List Char → Prop where
  | plain {c : Char} (quote : c ≠ '"') (backslash : c ≠ '\\') (control : ¬c.toNat < 0x20) :
      SpellsPiece (.char c) [c]
  | letter {e c : Char} (escape : escaped? e = some c) : SpellsPiece (.char c) ['\\', e]
  | unit {a b c d : Char} {n : Nat} (digits : hexUnit? a b c d = some n) :
      SpellsPiece (.unit n) ['\\', 'u', a, b, c, d]

inductive SpellsPieces : List Piece → List Char → Prop where
  | nil : SpellsPieces [] []
  | cons {p : Piece} {ps : List Piece} {cs ds : List Char} (first : SpellsPiece p cs)
      (others : SpellsPieces ps ds) : SpellsPieces (p :: ps) (cs ++ ds)

/-- The spellings of a string literal, with its quotes. -/
def SpellsLiteral (s : Literal) (cs : List Char) : Prop :=
  ∃ ps ds, SpellsPieces ps ds ∧ (joinPieces ps).map String.ofList = s ∧ cs = '"' :: (ds ++ ['"'])

theorem readPieces_of_plain {c : Char} (quote : c ≠ '"') (backslash : c ≠ '\\')
    (control : ¬c.toNat < 0x20) (rest : List Char) :
    readPieces (c :: rest) = (readPieces rest).map fun q => (.char c :: q.1, q.2) := by
  rw [readPieces]
  · simp only [beq_iff_eq, backslash, control, Bool.or_eq_true, decide_eq_true_eq, or_self, if_false]
    cases readPieces rest <;> rfl
  all_goals simp_all

theorem readPieces_of_spells {p : Piece} {cs : List Char} (h : SpellsPiece p cs)
    (rest : List Char) :
    readPieces (cs ++ rest) = (readPieces rest).map fun q => (p :: q.1, q.2) := by
  cases h with
  | plain quote backslash control => exact readPieces_of_plain quote backslash control rest
  | letter escape =>
    unfold escaped? at escape
    split at escape
    case h_9 => cases escape
    all_goals
      cases escape
      simp [readPieces, escaped?]
      cases readPieces rest <;> rfl
  | unit digits =>
    simp [readPieces, digits]
    cases readPieces rest <;> rfl

theorem readPieces_of_spelled {ps : List Piece} {cs : List Char} (h : SpellsPieces ps cs)
    (rest : List Char) : readPieces (cs ++ '"' :: rest) = some (ps, rest) := by
  induction h with
  | nil => simp [readPieces]
  | cons first _ ih => rw [List.append_assoc, readPieces_of_spells first, ih, Option.map_some]

theorem spellsPieces_of_readPieces {cs rest : List Char} {ps : List Piece}
    (h : readPieces cs = some (ps, rest)) : ∃ ds, SpellsPieces ps ds ∧ cs = ds ++ '"' :: rest := by
  fun_induction readPieces cs generalizing ps rest with
  | case1 => cases h
  | case2 r =>
    cases h
    exact ⟨[], .nil, rfl⟩
  | case3 a b c d r ih =>
    simp only [Option.bind_eq_bind, Option.bind_eq_some_iff] at h
    obtain ⟨n, digits, ⟨qs, left⟩, inner, whole⟩ := h
    cases whole
    obtain ⟨ds, others, rfl⟩ := ih inner
    exact ⟨_, .cons (.unit digits) others, rfl⟩
  | case4 e r _ ih =>
    simp only [Option.bind_eq_bind, Option.bind_eq_some_iff] at h
    obtain ⟨c, escape, ⟨qs, left⟩, inner, whole⟩ := h
    cases whole
    obtain ⟨ds, others, rfl⟩ := ih inner
    exact ⟨_, .cons (.letter escape) others, rfl⟩
  | case5 c r _ _ _ barred => cases h
  | case6 c r quote _ _ free ih =>
    simp only [Option.bind_eq_bind, Option.bind_eq_some_iff] at h
    obtain ⟨⟨qs, left⟩, inner, whole⟩ := h
    cases whole
    obtain ⟨ds, others, rfl⟩ := ih inner
    simp only [Bool.or_eq_true, beq_iff_eq, decide_eq_true_eq, not_or] at free
    exact ⟨_, .cons (.plain quote free.1 free.2) others, rfl⟩

theorem readLiteral_of_spelled {s : Literal} {cs : List Char} (h : SpellsLiteral s cs)
    (rest : List Char) : ∃ ds, cs = '"' :: ds ∧ readLiteral (ds ++ rest) = some (s, rest) := by
  obtain ⟨ps, ds, pieces, rfl, rfl⟩ := h
  refine ⟨_, rfl, ?_⟩
  rw [List.append_assoc, List.singleton_append, readLiteral, readPieces_of_spelled pieces]
  rfl

theorem spellsLiteral_of_readLiteral {s : Literal} {cs rest : List Char}
    (h : readLiteral cs = some (s, rest)) :
    ∃ ds, cs = ds ++ rest ∧ SpellsLiteral s ('"' :: ds) := by
  simp only [readLiteral, Option.bind_eq_bind, Option.bind_eq_some_iff] at h
  obtain ⟨⟨ps, left⟩, read, whole⟩ := h
  cases whole
  obtain ⟨ds, pieces, rfl⟩ := spellsPieces_of_readPieces read
  exact ⟨ds ++ ['"'], by simp, ps, ds, pieces, rfl, rfl⟩

/-- One digit or more. -/
structure AreDigits (ds : List Char) : Prop where
  some : ds ≠ []
  digits : ∀ d ∈ ds, d.isDigit = true

abbrev digitsValue (ds : List Char) : Nat := Nat.ofDigitChars 10 ds 0

inductive SpellsFraction : Option (List Char) → List Char → Prop where
  | absent : SpellsFraction none []
  | point {ds : List Char} (digits : AreDigits ds) : SpellsFraction (some ds) ('.' :: ds)

inductive SpellsPower : Int → List Char → Prop where
  | minus {ds : List Char} (digits : AreDigits ds) :
      SpellsPower (-(digitsValue ds : Int)) ('-' :: ds)
  | plus {ds : List Char} (digits : AreDigits ds) : SpellsPower (digitsValue ds) ('+' :: ds)
  | plain {ds : List Char} (digits : AreDigits ds) : SpellsPower (digitsValue ds) ds

inductive SpellsExponent : Option Int → List Char → Prop where
  | absent : SpellsExponent none []
  | lower {e : Int} {cs : List Char} (power : SpellsPower e cs) :
      SpellsExponent (some e) ('e' :: cs)
  | upper {e : Int} {cs : List Char} (power : SpellsPower e cs) :
      SpellsExponent (some e) ('E' :: cs)

/-- The spellings of the part before the point: no zero stands in front of another digit. -/
structure SpellsWhole (n : Nat) (ds : List Char) : Prop where
  digits : AreDigits ds
  zero : ds.head? = some '0' → ds = ['0']
  value : digitsValue ds = n

def SpellsUnsigned (n : Number) (cs : List Char) : Prop :=
  ∃ whole fraction exponent, SpellsWhole n.whole whole ∧ SpellsFraction n.fraction fraction ∧
    SpellsExponent n.exponent exponent ∧ cs = whole ++ (fraction ++ exponent)

def SpellsNumber (n : Number) (cs : List Char) : Prop :=
  if n.negative then ∃ ds, cs = '-' :: ds ∧ SpellsUnsigned n ds else SpellsUnsigned n cs

/-- What may stand behind a number: nothing that would make it longer. -/
def EndsNumber (rest : List Char) : Prop :=
  ∀ c ∈ rest.head?, c.isDigit = false ∧ c ≠ '.' ∧ c ≠ 'e' ∧ c ≠ 'E'

theorem readDigits_append {ds rest : List Char} (ne : ds ≠ []) (digits : ∀ d ∈ ds, d.isDigit)
    (ends : ∀ c ∈ rest.head?, c.isDigit = false) : readDigits (ds ++ rest) = some (ds, rest) := by
  have taken : rest.takeWhile Char.isDigit = [] := by
    cases rest with
    | nil => rfl
    | cons c rest => simp [ends c rfl]
  have dropped : rest.dropWhile Char.isDigit = rest := by
    cases rest with
    | nil => rfl
    | cons c rest => simp [ends c rfl]
  unfold readDigits
  rw [List.takeWhile_append_of_pos digits, List.dropWhile_append_of_pos digits, taken, dropped,
    List.append_nil]
  cases ds with
  | nil => exact absurd rfl ne
  | cons d ds => rfl

theorem areDigits_of_readDigits {cs ds rest : List Char} (h : readDigits cs = some (ds, rest)) :
    AreDigits ds ∧ cs = ds ++ rest := by
  have divided := List.takeWhile_append_dropWhile (p := Char.isDigit) (l := cs)
  have digits := List.all_eq_true.mp (List.all_takeWhile (p := Char.isDigit) (l := cs))
  unfold readDigits at h
  split at h
  · cases h
  next d ds taken =>
    cases h
    rw [taken] at divided digits
    exact ⟨⟨by simp, digits⟩, divided.symm⟩

/-- A first digit is none of the marks of a number. -/
theorem AreDigits.eq_cons {ds : List Char} (h : AreDigits ds) :
    ∃ d tail, ds = d :: tail ∧ d.isDigit = true := by
  obtain ⟨d, tail, rfl⟩ := List.exists_cons_of_ne_nil h.some
  exact ⟨d, tail, rfl, h.digits d List.mem_cons_self⟩

theorem readWhole_of_spelled {n : Nat} {ds rest : List Char} (h : SpellsWhole n ds)
    (ends : ∀ c ∈ rest.head?, c.isDigit = false) : readWhole (ds ++ rest) = some (n, rest) := by
  unfold readWhole
  rw [readDigits_append h.digits.some h.digits.digits ends]
  split
  next read =>
    obtain ⟨rfl, -⟩ := Prod.mk.inj (Option.some.inj read)
    have alone := h.zero rfl
    simp at alone
  next read =>
    obtain ⟨rfl, rfl⟩ := Prod.mk.inj (Option.some.inj read)
    rw [← h.value]
  next none => cases none

theorem spellsWhole_of_readWhole {n : Nat} {cs rest : List Char}
    (h : readWhole cs = some (n, rest)) : ∃ ds, SpellsWhole n ds ∧ cs = ds ++ rest := by
  unfold readWhole at h
  split at h
  · cases h
  next ds left other read =>
    cases h
    obtain ⟨digits, divided⟩ := areDigits_of_readDigits read
    refine ⟨ds, ⟨digits, fun zero => ?_, rfl⟩, divided⟩
    obtain ⟨tail, rfl⟩ := List.head?_eq_some_iff.mp zero
    cases tail with
    | nil => rfl
    | cons d tail => exact (other d tail rfl).elim
  · cases h

theorem readFraction_of_spelled {fraction : Option (List Char)} {cs rest : List Char}
    (h : SpellsFraction fraction cs) (point : rest.head? ≠ some '.')
    (ends : ∀ c ∈ rest.head?, c.isDigit = false) :
    readFraction (cs ++ rest) = some (fraction, rest) := by
  cases h with
  | absent =>
    rw [List.nil_append]
    unfold readFraction
    split
    · exact absurd rfl point
    · rfl
  | point digits =>
    rw [List.cons_append, readFraction, readDigits_append digits.some digits.digits ends]
    rfl

theorem spellsFraction_of_readFraction {fraction : Option (List Char)} {cs rest : List Char}
    (h : readFraction cs = some (fraction, rest)) :
    ∃ ds, SpellsFraction fraction ds ∧ cs = ds ++ rest := by
  unfold readFraction at h
  split at h
  · obtain ⟨⟨ds, left⟩, read, whole⟩ := Option.map_eq_some_iff.mp h
    cases whole
    obtain ⟨digits, rfl⟩ := areDigits_of_readDigits read
    exact ⟨_, .point digits, rfl⟩
  · cases h
    exact ⟨[], .absent, rfl⟩

theorem readPower_of_spelled {e : Int} {cs rest : List Char} (h : SpellsPower e cs)
    (ends : ∀ c ∈ rest.head?, c.isDigit = false) : readPower (cs ++ rest) = some (e, rest) := by
  cases h with
  | minus digits =>
    rw [List.cons_append, readPower, readDigits_append digits.some digits.digits ends]
    rfl
  | plus digits =>
    rw [List.cons_append, readPower, readDigits_append digits.some digits.digits ends]
    rfl
  | plain digits =>
    have read := readDigits_append digits.some digits.digits ends
    obtain ⟨d, tail, rfl, digit⟩ := digits.eq_cons
    -- a digit is no sign, so the reader takes its last way
    have minus : d ≠ '-' := by rintro rfl; simp at digit
    have plus : d ≠ '+' := by rintro rfl; simp at digit
    rw [List.cons_append] at read ⊢
    simp [readPower, minus, plus, read]

theorem spellsPower_of_readPower {e : Int} {cs rest : List Char}
    (h : readPower cs = some (e, rest)) : ∃ ds, SpellsPower e ds ∧ cs = ds ++ rest := by
  unfold readPower at h
  split at h
  all_goals
    obtain ⟨⟨ds, left⟩, read, whole⟩ := Option.map_eq_some_iff.mp h
    cases whole
    obtain ⟨digits, rfl⟩ := areDigits_of_readDigits read
  · exact ⟨_, .minus digits, rfl⟩
  · exact ⟨_, .plus digits, rfl⟩
  · exact ⟨_, .plain digits, rfl⟩

theorem readExponent_absent {rest : List Char} (ends : EndsNumber rest) :
    readExponent rest = some (none, rest) := by
  cases rest with
  | nil => rfl
  | cons c rest =>
    obtain ⟨-, -, he, hE⟩ := ends c rfl
    simp [readExponent, he, hE]

theorem readExponent_of_spelled {exponent : Option Int} {cs rest : List Char}
    (h : SpellsExponent exponent cs) (ends : EndsNumber rest) :
    readExponent (cs ++ rest) = some (exponent, rest) := by
  have digits : ∀ c ∈ rest.head?, c.isDigit = false := fun c first => (ends c first).1
  cases h with
  | absent => exact readExponent_absent ends
  | lower power => simp [readExponent, readPower_of_spelled power digits]
  | upper power => simp [readExponent, readPower_of_spelled power digits]

theorem spellsExponent_of_readExponent {exponent : Option Int} {cs rest : List Char}
    (h : readExponent cs = some (exponent, rest)) :
    ∃ ds, SpellsExponent exponent ds ∧ cs = ds ++ rest := by
  unfold readExponent at h
  split at h
  next c r =>
    split at h
    next mark =>
      obtain ⟨⟨e, left⟩, read, whole⟩ := Option.map_eq_some_iff.mp h
      cases whole
      obtain ⟨ds, power, rfl⟩ := spellsPower_of_readPower read
      simp only [Bool.or_eq_true, beq_iff_eq] at mark
      obtain rfl | rfl := mark
      · exact ⟨_, .lower power, rfl⟩
      · exact ⟨_, .upper power, rfl⟩
    next =>
      cases h
      exact ⟨[], .absent, rfl⟩
  · cases h
    exact ⟨[], .absent, rfl⟩

theorem head?_fraction {fraction : Option (List Char)} {cs rest : List Char}
    (h : SpellsFraction fraction cs) (ends : ∀ c ∈ rest.head?, c.isDigit = false) :
    ∀ c ∈ (cs ++ rest).head?, c.isDigit = false := by
  cases h with
  | absent => exact ends
  | point _ =>
    rintro c ⟨⟩
    rfl

/-- Where an exponent is over or has not been begun, no digit goes on and no point begins. -/
theorem head?_exponent {exponent : Option Int} {cs rest : List Char}
    (h : SpellsExponent exponent cs) (ends : EndsNumber rest) :
    (cs ++ rest).head? ≠ some '.' ∧ ∀ c ∈ (cs ++ rest).head?, c.isDigit = false := by
  cases h with
  | absent => exact ⟨fun point => (ends '.' point).2.1 rfl, fun c first => (ends c first).1⟩
  | lower power => exact ⟨by simp, by rintro c ⟨⟩; rfl⟩
  | upper power => exact ⟨by simp, by rintro c ⟨⟩; rfl⟩

theorem readUnsigned_of_spelled {n : Number} {cs rest : List Char} (h : SpellsUnsigned n cs)
    (ends : EndsNumber rest) : readUnsigned n.negative (cs ++ rest) = some (n, rest) := by
  obtain ⟨whole, fraction, exponent, spelledWhole, spelledFraction, spelledExponent, rfl⟩ := h
  obtain ⟨point, digits⟩ := head?_exponent spelledExponent ends
  have before := head?_fraction spelledFraction digits
  rw [List.append_assoc, List.append_assoc, readUnsigned, readWhole_of_spelled spelledWhole before]
  simp only [Option.bind_eq_bind, Option.bind_some,
    readFraction_of_spelled spelledFraction point digits,
    readExponent_of_spelled spelledExponent ends]

theorem spellsUnsigned_of_readUnsigned {negative : Bool} {n : Number} {cs rest : List Char}
    (h : readUnsigned negative cs = some (n, rest)) :
    n.negative = negative ∧ ∃ ds, SpellsUnsigned n ds ∧ cs = ds ++ rest := by
  simp only [readUnsigned, Option.bind_eq_bind, Option.bind_eq_some_iff] at h
  obtain ⟨⟨whole, r⟩, first, ⟨fraction, s⟩, second, ⟨exponent, t⟩, third, all⟩ := h
  cases all
  obtain ⟨ds, spelledWhole, rfl⟩ := spellsWhole_of_readWhole first
  obtain ⟨fs, spelledFraction, rfl⟩ := spellsFraction_of_readFraction second
  obtain ⟨es, spelledExponent, rfl⟩ := spellsExponent_of_readExponent third
  exact ⟨rfl, _, ⟨ds, fs, es, spelledWhole, spelledFraction, spelledExponent, rfl⟩, by simp⟩

theorem SpellsUnsigned.eq_cons {n : Number} {cs : List Char} (h : SpellsUnsigned n cs) :
    ∃ d tail, cs = d :: tail ∧ d.isDigit = true := by
  obtain ⟨whole, fraction, exponent, spelledWhole, -, -, rfl⟩ := h
  obtain ⟨d, tail, rfl, digit⟩ := spelledWhole.digits.eq_cons
  exact ⟨d, _, rfl, digit⟩

/-- The first character of a number. -/
theorem SpellsNumber.eq_cons {n : Number} {cs : List Char} (h : SpellsNumber n cs) :
    ∃ d tail, cs = d :: tail ∧ (d = '-' ∨ d.isDigit = true) := by
  rw [SpellsNumber] at h
  split at h
  · obtain ⟨ds, rfl, -⟩ := h
    exact ⟨'-', ds, rfl, .inl rfl⟩
  · obtain ⟨d, tail, rfl, digit⟩ := h.eq_cons
    exact ⟨d, tail, rfl, .inr digit⟩

theorem readNumber_of_spelled {n : Number} {cs rest : List Char} (h : SpellsNumber n cs)
    (ends : EndsNumber rest) : readNumber (cs ++ rest) = some (n, rest) := by
  rw [SpellsNumber] at h
  split at h
  next negative =>
    obtain ⟨ds, rfl, unsigned⟩ := h
    have read := readUnsigned_of_spelled unsigned ends
    rwa [negative] at read
  next positive =>
    have read := readUnsigned_of_spelled h ends
    obtain ⟨d, tail, rfl, digit⟩ := h.eq_cons
    have minus : d ≠ '-' := by rintro rfl; simp at digit
    rw [Bool.not_eq_true] at positive
    rw [positive, List.cons_append] at read
    simp [readNumber, minus, read]

theorem spellsNumber_of_readNumber {n : Number} {cs rest : List Char}
    (h : readNumber cs = some (n, rest)) : ∃ ds, SpellsNumber n ds ∧ cs = ds ++ rest := by
  unfold readNumber at h
  split at h
  · obtain ⟨negative, ds, unsigned, rfl⟩ := spellsUnsigned_of_readUnsigned h
    exact ⟨'-' :: ds, by rw [SpellsNumber, if_pos negative]; exact ⟨ds, rfl, unsigned⟩, rfl⟩
  · obtain ⟨positive, ds, unsigned, rfl⟩ := spellsUnsigned_of_readUnsigned h
    exact ⟨ds, by rwa [SpellsNumber, if_neg (by simp [positive])], rfl⟩

end IngestViewer.Json
