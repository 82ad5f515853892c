import IngestViewer.Program
import IngestViewer.Proofs.Trimming

namespace IngestViewer

namespace PreferredLocale

/-- Whether a text names nothing. -/
def IsBlankText (text : String) : Prop :=
  ∀ c ∈ text.toList, isBlank c = true

/-- Whether a value is that of the first variable that is set to anything. -/
def IsFirstSet (v : Variables) (value : String) : Prop :=
  ∃ before name after, ["LC_ALL", "LC_TIME", "LANG"] = before ++ name :: after ∧
    (v.get? name = some value ∧ value ≠ "") ∧
    ∀ earlier ∈ before, ∀ text, v.get? earlier = some text → text = ""

/-- Whether a locale stands for no language. -/
def IsUnspoken (tag : String) : Prop :=
  tag = "C" ∨ tag = "POSIX" ∨ "C.".toList <+: tag.toList

/-- The locale that a row of texts names, the one that counts most first. Behind them stand the
variables. -/
inductive Names (v : Variables) : List String → String → Prop
  | given {tag : String} {texts : List String} (given : ¬ IsBlankText tag) : Names v (tag :: texts) tag
  | blank {text tag : String} {texts : List String} (blank : IsBlankText text)
      (later : Names v texts tag) : Names v (text :: texts) tag
  | ofVariable {tag : String} (first : IsFirstSet v tag) (spoken : ¬ IsUnspoken tag) : Names v [] tag
  | ofNothing (none : ∀ tag, IsFirstSet v tag → IsUnspoken tag) : Names v [] "en-US"

theorem trimmed_eq_empty {text : String} : trimmed text = "" ↔ IsBlankText text := by
  rw [trimmed, IsBlankText, ← trimBlanks_eq_nil, ← String.toList_inj, String.toList_ofList]
  rfl

theorem isNeutral_iff {tag : String} : isNeutral tag = true ↔ IsUnspoken tag := by
  simp [isNeutral, IsUnspoken, or_assoc]

theorem nonEmpty?_eq_some {v : Variables} {name value : String} :
    v.nonEmpty? name = some value ↔ v.get? name = some value ∧ value ≠ "" := by
  rw [Variables.nonEmpty?, Option.filter_eq_some_iff, decide_eq_true_eq]

theorem nonEmpty?_eq_none {v : Variables} {name : String} :
    v.nonEmpty? name = none ↔ ∀ text, v.get? name = some text → text = "" := by
  cases found : v.get? name <;> simp [Variables.nonEmpty?, found]

theorem findSome?_eq_some_iff_isFirstSet {v : Variables} {value : String} :
    variableNames.findSome? v.nonEmpty? = some value ↔ IsFirstSet v value := by
  simp only [List.findSome?_eq_some_iff, nonEmpty?_eq_some, nonEmpty?_eq_none, IsFirstSet,
    variableNames]

theorem ofVariables?_eq_some {v : Variables} {tag : String} :
    ofVariables? v = some tag ↔ IsFirstSet v tag ∧ ¬ IsUnspoken tag := by
  rw [ofVariables?, Option.filter_eq_some_iff, findSome?_eq_some_iff_isFirstSet, ← isNeutral_iff]
  simp

theorem names_variables (v : Variables) :
    Names v [] ((ofVariables? v).getD LocaleRegistry.defaultTag) := by
  cases named : ofVariables? v with
  | some tag =>
    obtain ⟨first, spoken⟩ := ofVariables?_eq_some.mp named
    exact .ofVariable first spoken
  | none =>
    refine .ofNothing fun tag first => Classical.not_not.mp fun spoken => ?_
    rw [ofVariables?_eq_some.mpr ⟨first, spoken⟩] at named
    cases named

theorem choose_of_given {text : String} (given : ¬ IsBlankText text) (v : Variables) :
    choose (some text) v = text := by
  have kept : (some text).filter (trimmed · ≠ "") = some text := by
    simp [trimmed_eq_empty, given]
  rw [choose, kept]
  rfl

theorem choose_of_blank {text : String} (blank : IsBlankText text) (v : Variables) :
    choose (some text) v = (ofVariables? v).getD LocaleRegistry.defaultTag := by
  have gone : (some text).filter (trimmed · ≠ "") = none := by
    simp [trimmed_eq_empty, blank]
  rw [choose, gone]
  rfl

theorem names_choose (text : String) (v : Variables) : Names v [text] (choose (some text) v) := by
  by_cases blank : IsBlankText text
  · rw [choose_of_blank blank]
    exact .blank blank (names_variables v)
  · rw [choose_of_given blank]
    exact .given blank

theorem IsFirstSet.unique {v : Variables} {value value' : String} (h : IsFirstSet v value)
    (h' : IsFirstSet v value') : value = value' := by
  have found := findSome?_eq_some_iff_isFirstSet.mpr h
  rw [findSome?_eq_some_iff_isFirstSet.mpr h'] at found
  exact (Option.some.inj found).symm

/-- Texts and variables name one locale. -/
theorem Names.unique {v : Variables} {texts : List String} {tag tag' : String}
    (h : Names v texts tag) (h' : Names v texts tag') : tag = tag' := by
  induction h with
  | given given =>
    cases h' with
    | given => rfl
    | blank blank => exact absurd blank given
  | blank blank _ ih =>
    cases h' with
    | given given => exact absurd blank given
    | blank _ later => exact ih later
  | ofVariable first spoken =>
    cases h' with
    | ofVariable first' => exact first.unique first'
    | ofNothing none => exact absurd (none _ first) spoken
  | ofNothing none =>
    cases h' with
    | ofVariable first spoken => exact absurd (none _ first) spoken
    | ofNothing => rfl

/-- A run asks for the locale by one text, that of the command line if there is one. -/
theorem ofRun_eq (onCommandLine : Option String) (inSettings : String) (v : Variables) :
    ofRun onCommandLine inSettings v = choose (some (onCommandLine.getD inSettings)) v := by
  cases onCommandLine <;> rfl

theorem names_ofRun (onCommandLine : Option String) (inSettings : String) (v : Variables) :
    Names v [onCommandLine.getD inSettings] (ofRun onCommandLine inSettings v) := by
  rw [ofRun_eq]
  exact names_choose _ v

/-- The two texts count in turn, unless a blank one on the command line stands in front of one in
the settings that is not what the variables name. -/
theorem names_inTurn_iff {onCommandLine : Option String} {inSettings : String} {v : Variables} :
    Names v (onCommandLine.toList ++ [inSettings]) (ofRun onCommandLine inSettings v) ↔
      ∀ text, onCommandLine = some text → IsBlankText text →
        IsBlankText inSettings ∨ Names v [] inSettings := by
  have named := names_ofRun onCommandLine inSettings v
  generalize ofRun onCommandLine inSettings v = tag at named ⊢
  cases onCommandLine with
  | none => exact ⟨nofun, fun _ => named⟩
  | some text =>
    change Names v [text] tag at named
    change Names v [text, inSettings] tag ↔ _
    cases named with
    | given given =>
      refine ⟨fun _ other same blank => ?_, fun _ => .given given⟩
      cases same
      exact absurd blank given
    | blank blank alone =>
      -- the variables name the locale, whatever the settings have
      constructor
      · rintro inTurn other same -
        cases inTurn with
        | given given => exact absurd blank given
        | blank _ later =>
          cases later with
          | given => exact .inr alone
          | blank settingsBlank => exact .inl settingsBlank
      · intro unlessBlank
        refine .blank blank ?_
        rcases unlessBlank text rfl blank with settingsBlank | same
        · exact .blank settingsBlank alone
        · by_cases settingsBlank : IsBlankText inSettings
          · exact .blank settingsBlank alone
          · rw [alone.unique same]
            exact .given settingsBlank

end PreferredLocale

namespace Program

open PreferredLocale

variable {σ : Type}

/-- How the locale of a run is settled. -/
structure SettlesLocale (s : Surroundings σ) (call : Invocation) (settings : Settings) : Prop where
  /-- One text is asked, that of the command line if there is one, and then the variables. -/
  named : ∀ tag, Names s.vars [call.locale.getD settings.locale] tag ↔
    ofRun call.locale settings.locale s.vars = tag
  /-- So the settings are not asked where the command line has a blank text. Elsewhere the first of
  the two that is given counts, and then the variables. -/
  inTurn : Names s.vars (call.locale.toList ++ [settings.locale])
      (ofRun call.locale settings.locale s.vars) ↔
    ∀ text, call.locale = some text → IsBlankText text →
      IsBlankText settings.locale ∨ Names s.vars [] settings.locale
  /-- All dates of the run are put into words for the locale. -/
  used : ∀ sv, servicesOf s call settings = .ok sv →
    sv.formatter = ⟨.builtin, ofRun call.locale settings.locale s.vars, s.zone⟩

theorem formatter_of_servicesOf {s : Surroundings σ} {call : Invocation} {settings : Settings}
    {sv : Services σ} (h : servicesOf s call settings = .ok sv) :
    sv.formatter = ⟨.builtin, ofRun call.locale settings.locale s.vars, s.zone⟩ := by
  unfold servicesOf Services.ofSettings at h
  cases endpoints : Endpoints.ofConfig settings.stagingUrl settings.productionUrl with
  | error e =>
    rw [endpoints] at h
    cases h
  | ok e =>
    rw [endpoints] at h
    cases h
    rfl

/-- The locale of a run is that of the text that is asked, or else that of the variables. -/
theorem settlesLocale (s : Surroundings σ) (call : Invocation) (settings : Settings) :
    SettlesLocale s call settings where
  named := by
    intro tag
    have named := names_ofRun call.locale settings.locale s.vars
    constructor
    · exact named.unique
    · rintro rfl
      exact named
  inTurn := names_inTurn_iff
  used := fun _ => formatter_of_servicesOf

/-- A blank text on the command line hides the one in the settings. -/
theorem blank_locale_hides_settings :
    ofRun (some " ") "de-DE" [] = "en-US" ∧ Names [] [" ", "de-DE"] "de-DE" ∧
      ¬ ∀ onCommandLine inSettings v, Names v (onCommandLine.toList ++ [inSettings])
        (ofRun onCommandLine inSettings v) := by
  have chosen : ofRun (some " ") "de-DE" [] = "en-US" := by decide
  have blank : IsBlankText " " := trimmed_eq_empty.mp (by decide)
  have given : ¬ IsBlankText "de-DE" := fun blank => absurd (trimmed_eq_empty.mpr blank) (by decide)
  have inTurn : Names [] [" ", "de-DE"] "de-DE" := .blank blank (.given given)
  refine ⟨chosen, inTurn, fun always => ?_⟩
  have other := inTurn.unique (always (some " ") "de-DE" [])
  rw [chosen] at other
  exact absurd other (by decide)

end Program

end IngestViewer
