import IngestViewer.Proofs.NestedResponse

namespace IngestViewer

open Json (Members)

theorem Json.eq_ofText_of_text? {j : Json} {s : String} (h : j.text? = some s) : j = .ofText s := by
  cases j with
  | string literal => exact congrArg Json.string h
  | null | bool _ | number _ | array _ | object _ => cases h

/-- A record that has been read lives where the word among its members says. -/
theorem IngestRecord.environment_of_ofJson? {ms : Members} {r : IngestRecord}
    (read : ofJson? (.object ms) = some r) :
    ∃ word, ms.find? "environment" = some (.ofText word) ∧ r.environment = .ofText word := by
  obtain ⟨field, fields, has⟩ := hasFields_of_ofJson? read
  obtain ⟨word, stated, lives⟩ := has.environment
  obtain ⟨j, found, text⟩ := Option.bind_eq_some_iff.mp stated
  have member : field "environment" = ms.find? "environment" := by
    rw [Json.fields] at fields
    split at fields
    next => rw [← Option.some.inj fields]
    next => cases fields
  exact ⟨word, member ▸ Json.eq_ofText_of_text? text ▸ found, lives⟩

theorem Environment.ofText_eq_production_iff {word : String} :
    ofText word = production ↔ word = "production" := by
  simp [ofText]

namespace ResponseBody

/-- The word for an environment among the members of an object. -/
def word? (ms : Members) : Option String :=
  (ms.find? "environment").bind Json.text?

/-- The word that a response states first, in a member that holds the record or beside it. -/
def statedWord? (ms : Members) : Option String :=
  match ms.find? "ingest" with
  | some (.object inner) => (word? inner).or (word? ms)
  | _ => word? ms

/-- Whether a record in a member of its own has a member for its environment that is no word. -/
def HidesWord (ms : Members) : Prop :=
  ∃ (inner : Members) (v : Json), ms.find? "ingest" = some (.object inner) ∧
    inner.find? "environment" = some v ∧ v.text? = none

/-- Whether a record is taken to live where the members of a response say it does, or else where it
has been asked for. -/
structure IsTag (asked : Environment) (ms : Members) (e : Environment) : Prop where
  stated : ¬HidesWord ms → ∀ word, statedWord? ms = some word →
    (e = .production ↔ word = "production")
  unstated : statedWord? ms = none → e = asked
  /-- What is no word hides the word beside the record. -/
  hidden : HidesWord ms → e = asked

theorem word_of_tagged {asked : Environment} {ms : Members} {word : String}
    (h : (tagged asked ms).find? "environment" = some (.ofText word)) :
    word = (word? ms).getD asked.text := by
  rw [tagged] at h
  split at h
  next =>
    rw [word?, h]
    rfl
  next other =>
    rw [Members.find?_insert_self] at h
    have none : word? ms = none := by
      cases found : ms.find? "environment" with
      | none => rw [word?, found, Option.bind_none]
      | some j =>
        cases j with
        | string s => exact absurd found (other s)
        | null | bool _ | number _ | array _ | object _ => rw [word?, found]; rfl
    rw [none]
    cases h
    rfl

variable {ms inner : Members}

theorem recordMembers_of_plain (plain : ∀ inner, ms.find? "ingest" ≠ some (.object inner)) :
    recordMembers ms = ms ∧ statedWord? ms = word? ms ∧ ¬HidesWord ms := by
  refine ⟨?_, ?_, fun ⟨inner, _, nested, _⟩ => plain inner nested⟩
  · rw [recordMembers]
    split
    next inner nested => exact absurd nested (plain inner)
    next => rfl
  · rw [statedWord?]
    split
    next inner nested => exact absurd nested (plain inner)
    next => rfl

/-- The word beside a record counts if the record has no member of that name. -/
theorem word?_recordMembers_of_nested (nested : ms.find? "ingest" = some (.object inner)) :
    word? (recordMembers ms) =
      if (inner.find? "environment").isSome then word? inner else word? ms := by
  rw [recordMembers, nested]
  dsimp only
  cases own : inner.find? "environment" with
  | some v => rfl
  | none =>
    cases beside : ms.find? "environment" with
    | none => simp [word?, own, beside]
    | some e => simp [word?, Members.find?_insert_self, beside]

theorem hidesWord_iff_of_nested (nested : ms.find? "ingest" = some (.object inner)) :
    HidesWord ms ↔ (inner.find? "environment").isSome ∧ word? inner = none := by
  constructor
  · rintro ⟨inner', v, nested', own, noText⟩
    rw [nested] at nested'
    cases nested'
    rw [word?, own]
    exact ⟨rfl, noText⟩
  · rintro ⟨there, noWord⟩
    obtain ⟨v, own⟩ := Option.isSome_iff_exists.mp there
    rw [word?, own] at noWord
    exact ⟨inner, v, nested, own, noWord⟩

theorem word?_recordMembers (ms : Members) :
    (HidesWord ms → word? (recordMembers ms) = none) ∧
      (¬HidesWord ms → word? (recordMembers ms) = statedWord? ms) := by
  by_cases plain : ∀ inner, ms.find? "ingest" ≠ some (.object inner)
  · obtain ⟨same, stated, audible⟩ := recordMembers_of_plain plain
    rw [same, stated]
    exact ⟨fun hidden => absurd hidden audible, fun _ => rfl⟩
  · simp only [not_forall, not_not] at plain
    obtain ⟨inner, nested⟩ := plain
    have stated : statedWord? ms = (word? inner).or (word? ms) := by rw [statedWord?, nested]
    rw [hidesWord_iff_of_nested nested, word?_recordMembers_of_nested nested, stated]
    cases own : Members.find? "environment" inner with
    | none =>
      have silent : word? inner = none := by rw [word?, own, Option.bind_none]
      rw [silent]
      exact ⟨fun hidden => absurd hidden.1 (by simp), fun _ => rfl⟩
    | some v =>
      refine ⟨fun hidden => hidden.2, fun shown => ?_⟩
      cases word : word? inner with
      | none => exact absurd ⟨rfl, word⟩ shown
      | some w => rfl

theorem ofJson?_of_record {asked : Environment} {body : String} {j : Json} {r : IngestRecord}
    (whole : Json.parse body = some j) (read : record asked body = .ok r) :
    IngestRecord.ofJson? (normalize asked j) = some r := by
  rw [record, whole] at read
  dsimp only at read
  split at read
  next found =>
    cases read
    exact found
  next => cases read

theorem isTag_of_ofJson? {asked : Environment} {r : IngestRecord}
    (read : IngestRecord.ofJson? (normalize asked (.object ms)) = some r) :
    IsTag asked ms r.environment := by
  obtain ⟨word, stated, lives⟩ := IngestRecord.environment_of_ofJson? read
  have word_eq := word_of_tagged stated
  obtain ⟨hidden, shown⟩ := word?_recordMembers ms
  have unstated (none : word? (recordMembers ms) = none) : r.environment = asked := by
    rw [none, Option.getD_none] at word_eq
    rw [lives, word_eq, Environment.ofText_text]
  refine ⟨fun audible w first => ?_, fun none => ?_, fun hides => unstated (hidden hides)⟩
  · rw [shown audible, first, Option.getD_some] at word_eq
    rw [lives, word_eq, Environment.ofText_eq_production_iff]
  · by_cases hides : HidesWord ms
    · exact unstated (hidden hides)
    · exact unstated ((shown hides).trans none)

end ResponseBody

namespace Gateway

/-- A record that comes out of a response lives where the response says first, by a word in the
record or beside it, or else where it has been asked for. Only a member of the record that is no
word keeps the word beside it from being heard. -/
theorem environment_of_answer {id : IngestId} {asked : Environment} {body : List UInt8}
    {ms : Members} {r : IngestRecord}
    (object : Json.parse (Utf8.lossyText body) = some (.object ms))
    (answered : resultOf id asked (.answered 200 body) = .ok r) :
    ResponseBody.IsTag asked ms r.environment := by
  rw [resultOf, if_pos rfl] at answered
  split at answered
  next read =>
    cases answered
    exact ResponseBody.isTag_of_ofJson? (ResponseBody.ofJson?_of_record object read)
  next => cases answered

/-- A response whose record has a member for its environment, with another one beside the record. -/
def twofoldMembers (own beside : Json) : Members :=
  ResponseBody.nestedMembers (bareMembers .null ++ [(some "environment", own)]) (some beside) []

theorem parse_twofoldMembers {own beside : Json} (legible : own.IsLegible)
    (legibleBeside : beside.IsLegible)
    (sound : (Json.object (twofoldMembers own beside)).isSound Json.depthLimit = true) :
    Json.parse (Utf8.lossyText (bodyOf (twofoldMembers own beside))) =
      some (.object (Json.lastWinsMembers (twofoldMembers own beside))) := by
  refine ResponseBody.parse_of_sound (read_bodyOf ?_) sound
  have record : Json.AreLegibleMembers (bareMembers .null ++ [(some "environment", own)]) := by
    refine Json.areLegibleMembers_iff.mpr (List.forall_mem_append.mpr ⟨?_, ?_⟩)
    · exact Json.areLegibleMembers_iff.mp (areLegibleMembers_bareMembers trivial)
    · simpa using legible
  exact ⟨record, legibleBeside, trivial⟩

/-- The word of the record is heard before the one beside it and before what has been asked. -/
theorem environment_of_twofoldMembers :
    let ms := Json.lastWinsMembers (twofoldMembers (.ofText "elsewhere") (.ofText "production"))
    let body := bodyOf (twofoldMembers (.ofText "elsewhere") (.ofText "production"))
    Json.parse (Utf8.lossyText body) = some (.object ms) ∧
      resultOf ⟨"a"⟩ .production (.answered 200 body) =
        .ok { bareRecord with environment := .staging } ∧
      ¬ResponseBody.HidesWord ms ∧ ResponseBody.statedWord? ms = some "elsewhere" ∧
      ResponseBody.IsTag .production ms .staging := by
  intro ms body
  have object : Json.parse (Utf8.lossyText body) = some (.object ms) :=
    parse_twofoldMembers trivial trivial (by decide +kernel)
  have answered : resultOf ⟨"a"⟩ .production (.answered 200 body) =
      .ok { bareRecord with environment := .staging } :=
    resultOf_of_parse object (by decide +kernel) _
  have first : ResponseBody.statedWord? ms = some "elsewhere" := by decide +kernel
  have nested : ms.find? "ingest" = some (.object (Json.lastWinsMembers
      (bareMembers .null ++ [(some "environment", .ofText "elsewhere")]))) := rfl
  have shown : ¬ResponseBody.HidesWord ms := by
    rw [ResponseBody.hidesWord_iff_of_nested nested]
    decide +kernel
  exact ⟨object, answered, shown, first, environment_of_answer object answered⟩

/-- A null in the record keeps the word beside it from being heard. -/
theorem null_hides_word :
    let ms := Json.lastWinsMembers (twofoldMembers .null (.ofText "production"))
    let body := bodyOf (twofoldMembers .null (.ofText "production"))
    Json.parse (Utf8.lossyText body) = some (.object ms) ∧
      ResponseBody.statedWord? ms = some "production" ∧
      resultOf ⟨"a"⟩ .staging (.answered 200 body) =
        .ok { bareRecord with environment := .staging } := by
  intro ms body
  have object : Json.parse (Utf8.lossyText body) = some (.object ms) :=
    parse_twofoldMembers trivial trivial (by decide +kernel)
  have first : ResponseBody.statedWord? ms = some "production" := by decide +kernel
  exact ⟨object, first, resultOf_of_parse object (by decide +kernel) _⟩

end Gateway

end IngestViewer
