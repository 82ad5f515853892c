import IngestViewer.LocaleRegistry
import IngestViewer.Proofs.LetterCase
import Mathlib.Data.List.Forall2
import Mathlib.Data.List.Induction
import Mathlib.Data.List.TakeWhile

namespace IngestViewer

/-- Whether two characters are alike but for their case, or are both hyphens or underscores. -/
def AlikeInTags (c d : Char) : Prop :=
  c.toLower = d.toLower ∨ (c = '_' ∨ c = '-') ∧ (d = '_' ∨ d = '-')

/-- Whether two tags have characters alike up to the first full stop. -/
def AreAlikeTags (tag tag' : String) : Prop :=
  List.Forall₂ AlikeInTags (tag.toList.takeWhile (· != '.')) (tag'.toList.takeWhile (· != '.'))

theorem alikeInTags_iff {c d : Char} : AlikeInTags c d ↔
    (if c = '_' then '-' else c.toLower) = if d = '_' then '-' else d.toLower := by
  have hyphen : ∀ c : Char, c.toLower = '-' → c = '-' := fun c h => eq_of_toLower h (by decide)
  have underscore : ∀ c : Char, c.toLower = '_' → c = '_' := fun c h => eq_of_toLower h (by decide)
  constructor
  · rintro (same | ⟨rfl | rfl, rfl | rfl⟩)
    · split <;> split
      next => rfl
      next left right =>
        rw [left] at same
        exact absurd (underscore d same.symm) right
      next left right =>
        rw [right] at same
        exact absurd (underscore c same) left
      next => exact same
    all_goals rfl
  · intro same
    split at same <;> split at same
    next left right => exact .inr ⟨.inl left, .inl right⟩
    next left _ => exact .inr ⟨.inl left, .inr (hyphen d same.symm)⟩
    next _ right => exact .inr ⟨.inr (hyphen c same), .inl right⟩
    next => exact .inl same

theorem areAlikeTags_iff {tag tag' : String} :
    AreAlikeTags tag tag' ↔ normalTag tag = normalTag tag' := by
  have alike : AlikeInTags = fun c d =>
      (if c = '_' then '-' else c.toLower) = if d = '_' then '-' else d.toLower :=
    funext fun c => funext fun d => propext alikeInTags_iff
  rw [normalTag, normalTag, String.ofList_inj, ← List.forall₂_eq_eq_eq, List.forall₂_map_left_iff,
    List.forall₂_map_right_iff, AreAlikeTags, alike]

/-- What stands in a text before the first mark, or the whole text if there is none in it. -/
def StandsBefore (mark : Char) (front text : List Char) : Prop :=
  mark ∉ front ∧ (text = front ∨ ∃ rest, text = front ++ mark :: rest)

/-- Whether a tag is compared in that form: it is the part before the first full stop, with hyphens
for underscores and in small letters. -/
def IsFormOf (form tag : String) : Prop :=
  ∃ front, StandsBefore '.' front tag.toList ∧
    List.Forall₂ (fun c d => c = '_' ∧ d = '-' ∨ c ≠ '_' ∧ d = c.toLower) front form.toList

/-- The language in a form is the part before the first hyphen. -/
def IsLanguageOf (language form : String) : Prop := StandsBefore '-' language.toList form.toList

theorem standsBefore_iff {mark : Char} {front text : List Char} :
    StandsBefore mark front text ↔ text.takeWhile (· != mark) = front := by
  constructor
  · rintro ⟨absent, whole⟩
    have kept : ∀ c ∈ front, (c != mark) = true := by
      rintro c among
      exact bne_iff_ne.mpr fun same => absent (same ▸ among)
    obtain rfl | ⟨rest, rfl⟩ := whole
    · exact List.takeWhile_eq_self_iff.mpr kept
    · rw [List.takeWhile_append_of_pos kept, List.takeWhile_cons_of_neg (by simp), List.append_nil]
  · rintro rfl
    refine ⟨fun among => by simpa using List.mem_takeWhile_imp among, ?_⟩
    have whole := List.takeWhile_append_dropWhile (p := (· != mark)) (l := text)
    cases rest : text.dropWhile (· != mark) with
    | nil =>
      rw [rest, List.append_nil] at whole
      exact .inl whole.symm
    | cons c rest' =>
      have stop := List.head?_dropWhile_not (· != mark) text
      rw [rest] at whole stop
      have same : c = mark := by simpa using stop
      rw [same] at whole
      exact .inr ⟨rest', whole.symm⟩

theorem isLanguageOf_iff {language form : String} :
    IsLanguageOf language form ↔ languageOf form = language := by
  rw [IsLanguageOf, standsBefore_iff, languageOf, ← String.toList_inj, String.toList_ofList]

theorem isFormOf_iff {form tag : String} : IsFormOf form tag ↔ normalTag tag = form := by
  have compared : (fun c d : Char => c = '_' ∧ d = '-' ∨ c ≠ '_' ∧ d = c.toLower) =
      fun c d => (if c = '_' then '-' else c.toLower) = d := by
    funext c d
    by_cases underscore : c = '_' <;> simp [underscore, eq_comm]
  simp only [IsFormOf, standsBefore_iff, exists_eq_left', compared]
  rw [normalTag, ← String.toList_inj, String.toList_ofList, ← List.forall₂_map_left_iff,
    List.forall₂_eq_eq_eq]

/-- Tables with the tags they are registered under, the first registration first. -/
abbrev Registrations := List (String × PhraseTable)

namespace Registrations

variable {history : Registrations} {form : String} {table : PhraseTable}

/-- Whether the last registration under a form is that of the table. -/
def IsLastFor (history : Registrations) (form : String) (table : PhraseTable) : Prop :=
  ∃ before tag after, history = before ++ (tag, table) :: after ∧ IsFormOf form tag ∧
    ∀ e ∈ after, ¬IsFormOf form e.1

def Lacks (history : Registrations) (form : String) : Prop :=
  ∀ e ∈ history, ¬IsFormOf form e.1

/-- The registrations as a registry keeps them. -/
def kept (history : Registrations) : List (String × PhraseTable) :=
  (history.map fun e => (normalTag e.1, e.2)).reverse

theorem lookup_kept_concat (e : String × PhraseTable) :
    (kept (history ++ [e])).lookup form =
      if normalTag e.1 = form then some e.2 else (kept history).lookup form := by
  have newest : kept (history ++ [e]) = (normalTag e.1, e.2) :: kept history := by simp [kept]
  rw [newest, List.lookup_cons]
  split
  next same => rw [if_pos (eq_of_beq same).symm]
  next other => rw [if_neg (Ne.symm (ne_of_beq_false other))]

theorem lacks_concat (e : String × PhraseTable) :
    Lacks (history ++ [e]) form ↔ ¬IsFormOf form e.1 ∧ Lacks history form := by
  simp only [Lacks, List.mem_append, List.mem_singleton, or_imp, forall_and, forall_eq]
  exact and_comm

theorem isLastFor_concat (e : String × PhraseTable) : IsLastFor (history ++ [e]) form table ↔
    IsFormOf form e.1 ∧ e.2 = table ∨ ¬IsFormOf form e.1 ∧ IsLastFor history form table := by
  constructor
  · rintro ⟨before, tag, after, parts, same, later⟩
    rcases List.eq_nil_or_concat after with rfl | ⟨inner, last, rfl⟩
    · obtain ⟨-, entry⟩ := List.append_inj' parts rfl
      cases entry
      exact .inl ⟨same, rfl⟩
    · have parts : history ++ [e] = (before ++ (tag, table) :: inner) ++ [last] := by
        rw [parts]
        simp
      obtain ⟨earlier, entry⟩ := List.append_inj' parts rfl
      cases entry
      exact .inr ⟨later e (by simp), before, tag, inner, earlier, same,
        fun e' mem => later e' (by simp [mem])⟩
  · rintro (⟨same, rfl⟩ | ⟨other, before, tag, after, rfl, same, later⟩)
    · exact ⟨history, e.1, [], rfl, same, nofun⟩
    · refine ⟨before, tag, after ++ [e], by simp, same, fun e' mem => ?_⟩
      rcases List.mem_append.mp mem with inner | last
      · exact later e' inner
      · rw [List.mem_singleton.mp last]
        exact other

theorem lookup_kept_eq_none : (kept history).lookup form = none ↔ history.Lacks form := by
  induction history using List.reverseRecOn with
  | nil => simp [kept, Lacks]
  | append_singleton history e ih =>
    rw [lookup_kept_concat, lacks_concat, ← ih, isFormOf_iff]
    by_cases same : normalTag e.1 = form <;> simp [same]

/-- What is found under a form is what was registered under it last. -/
theorem lookup_kept_eq_some :
    (kept history).lookup form = some table ↔ history.IsLastFor form table := by
  induction history using List.reverseRecOn with
  | nil => simp [kept, IsLastFor]
  | append_singleton history e ih =>
    rw [lookup_kept_concat, isLastFor_concat, ← ih, isFormOf_iff]
    by_cases same : normalTag e.1 = form <;> simp [same]

/-- The table that a history has for a tag: the last one for its form, or else the last one for its
language, or else the one for all other tags. -/
inductive Resolves (history : Registrations) (fallback : PhraseTable) (tag : String) :
    PhraseTable → Prop
  | exact {form : String} {found : PhraseTable} (formed : IsFormOf form tag)
      (last : history.IsLastFor form found) : Resolves history fallback tag found
  | language {form language : String} {found : PhraseTable} (formed : IsFormOf form tag)
      (spoken : IsLanguageOf language form) (lacks : history.Lacks form)
      (last : history.IsLastFor language found) : Resolves history fallback tag found
  | fallback {form language : String} (formed : IsFormOf form tag)
      (spoken : IsLanguageOf language form) (lacks : history.Lacks form)
      (lacks' : history.Lacks language) : Resolves history fallback tag fallback

theorem kept_of_alike {history' : Registrations}
    (alike : List.Forall₂ (fun e e' => AreAlikeTags e.1 e'.1 ∧ e.2 = e'.2) history history') :
    history.kept = history'.kept := by
  have forms : history.map (fun e => (normalTag e.1, e.2)) =
      history'.map fun e => (normalTag e.1, e.2) := by
    induction alike with
    | nil => rfl
    | cons head tail ih =>
      obtain ⟨tags, tables⟩ := head
      rw [List.map_cons, List.map_cons, areAlikeTags_iff.mp tags, tables, ih]
  rw [kept, kept, forms]

theorem resolves_iff {fallback : PhraseTable} {tag : String} :
    history.Resolves fallback tag table ↔
      LocaleRegistry.resolve ⟨history.kept, fallback⟩ tag = table := by
  simp only [LocaleRegistry.resolve]
  have formed : IsFormOf (normalTag tag) tag := isFormOf_iff.mpr rfl
  have spoken : IsLanguageOf (languageOf (normalTag tag)) (normalTag tag) := isLanguageOf_iff.mpr rfl
  constructor
  · intro resolves
    cases resolves with
    | exact formed last =>
      rw [isFormOf_iff.mp formed, lookup_kept_eq_some.mpr last]
      rfl
    | language formed spoken lacks last =>
      rw [isFormOf_iff.mp formed, isLanguageOf_iff.mp spoken, lookup_kept_eq_none.mpr lacks,
        lookup_kept_eq_some.mpr last]
      rfl
    | fallback formed spoken lacks lacks' =>
      rw [isFormOf_iff.mp formed, isLanguageOf_iff.mp spoken, lookup_kept_eq_none.mpr lacks,
        lookup_kept_eq_none.mpr lacks']
      rfl
  · rintro rfl
    cases exact : history.kept.lookup (normalTag tag) with
    | some table => exact .exact formed (lookup_kept_eq_some.mp exact)
    | none =>
      have lacks := lookup_kept_eq_none.mp exact
      cases language : history.kept.lookup (languageOf (normalTag tag)) with
      | some table => exact .language formed spoken lacks (lookup_kept_eq_some.mp language)
      | none => exact .fallback formed spoken lacks (lookup_kept_eq_none.mp language)

end Registrations

namespace LocaleRegistry

inductive Origin where
  | single (tag : String) (table : PhraseTable)
  | builtin

namespace Origin

def registry : Origin → LocaleRegistry
  | single tag table => .empty tag table
  | builtin => .builtin

def registrations : Origin → Registrations
  | single tag table => [(tag, table)]
  | builtin => [("en-US", .english), ("en", .english), ("de-DE", .german), ("de", .german)]

def fallback : Origin → PhraseTable
  | single _ table => table
  | builtin => .english

end Origin

def registerAll (r : LocaleRegistry) (later : Registrations) : LocaleRegistry :=
  later.foldl (fun r e => r.register e.1 e.2) r

theorem registry_eq (origin : Origin) :
    origin.registry = ⟨origin.registrations.kept, origin.fallback⟩ := by
  cases origin <;> rfl

theorem registerAll_eq (history later : Registrations) (fallback : PhraseTable) :
    registerAll ⟨history.kept, fallback⟩ later = ⟨(history ++ later).kept, fallback⟩ := by
  induction later generalizing history with
  | nil => simp [registerAll]
  | cons e later ih =>
    have step : register ⟨history.kept, fallback⟩ e.1 e.2 = ⟨(history ++ [e]).kept, fallback⟩ := by
      simp [register, Registrations.kept]
    rw [registerAll, List.foldl_cons, step]
    exact (ih (history ++ [e])).trans (by simp)

theorem registry_registerAll (origin : Origin) (later : Registrations) :
    origin.registry.registerAll later =
      ⟨(origin.registrations ++ later).kept, origin.fallback⟩ := by
  rw [registry_eq, registerAll_eq]

structure FollowsHistory (origin : Origin) (later : Registrations) : Prop where
  resolves : ∀ tag table,
    (origin.registrations ++ later).Resolves origin.fallback tag table ↔
      (origin.registry.registerAll later).resolve tag = table
  asked_alike : ∀ tag tag', AreAlikeTags tag tag' →
    (origin.registry.registerAll later).resolve tag =
      (origin.registry.registerAll later).resolve tag'
  registered_alike : ∀ (origin' : Origin) (later' : Registrations),
    origin'.fallback = origin.fallback →
    List.Forall₂ (fun e e' => AreAlikeTags e.1 e'.1 ∧ e.2 = e'.2)
      (origin.registrations ++ later) (origin'.registrations ++ later') →
    origin.registry.registerAll later = origin'.registry.registerAll later'
  /-- A registration matters to no tag but those of its form and of its language. -/
  others_stay : ∀ tag table query form language, IsFormOf form query → IsLanguageOf language form →
    ¬IsFormOf form tag → ¬IsFormOf language tag →
    (origin.registry.registerAll (later ++ [(tag, table)])).resolve query =
      (origin.registry.registerAll later).resolve query

/-- A tag has the table that was registered last, for its form or else for its language. -/
theorem followsHistory (origin : Origin) (later : Registrations) : FollowsHistory origin later where
  resolves := by
    intro tag table
    rw [registry_registerAll]
    exact Registrations.resolves_iff
  asked_alike := by
    intro tag tag' alike
    rw [resolve, resolve, areAlikeTags_iff.mp alike]
  registered_alike := by
    intro origin' later' same alike
    rw [registry_registerAll, registry_registerAll, same, Registrations.kept_of_alike alike]
  others_stay := by
    intro tag table query form language formed spoken other otherLanguage
    rw [← isFormOf_iff.mp formed, isFormOf_iff] at other
    rw [← isLanguageOf_iff.mp spoken, ← isFormOf_iff.mp formed, isFormOf_iff] at otherLanguage
    rw [registry_registerAll, registry_registerAll, ← List.append_assoc]
    simp only [resolve]
    -- neither of the two lookups stops at the new entry
    rw [Registrations.lookup_kept_concat, Registrations.lookup_kept_concat, if_neg other,
      if_neg otherLanguage]

/-- An Austrian tag with an encoding is registered nowhere, and has the table of its language also
when another tag of the language has got another one. -/
theorem austrian_resolved_as_german :
    let later : Registrations := [("DE_ch.UTF-8", .english)]
    (LocaleRegistry.builtin.registerAll later).resolve "de_AT.UTF-8" = .german := by
  intro later
  have formed : IsFormOf "de-at" "de_AT.UTF-8" := isFormOf_iff.mpr (by decide)
  have spoken : IsLanguageOf "de" "de-at" := isLanguageOf_iff.mpr (by decide)
  have lacks : (Origin.builtin.registrations ++ later).Lacks "de-at" := by
    intro e among
    rw [isFormOf_iff]
    revert e
    decide
  have last : (Origin.builtin.registrations ++ later).IsLastFor "de" .german := by
    refine ⟨[("en-US", .english), ("en", .english), ("de-DE", .german)], "de", later, rfl,
      isFormOf_iff.mpr (by decide), fun e among => ?_⟩
    rw [isFormOf_iff, List.mem_singleton.mp among]
    decide
  exact ((followsHistory .builtin later).resolves _ _).mp (.language formed spoken lacks last)

/-- The tag that a registry begins with can get another table, and the other tags keep the first. -/
example : ((LocaleRegistry.empty "en" .english).register "EN.UTF-8" .german).resolve "fr" =
    .english := rfl

end LocaleRegistry

end IngestViewer
