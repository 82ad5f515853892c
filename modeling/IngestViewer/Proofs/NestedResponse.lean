import IngestViewer.Gateway
import IngestViewer.Proofs.CanonicalText
import IngestViewer.Proofs.MemberOrder
import IngestViewer.Proofs.Utf8RoundTrip
import IngestViewer.Proofs.ValueParts

namespace IngestViewer

namespace Json.Members

/-- Members that are held: each name is a text and there once. -/
structure AreHeld (ms : Members) : Prop where
  named : ∀ m ∈ ms, m.1.isSome = true
  once : (ms.map Prod.fst).Nodup

theorem areHeld_lastWins {ms : Members} {depth : Nat} (sound : areSoundMembers depth ms = true) :
    AreHeld (lastWinsMembers ms) where
  named m hm := by
    have name := mem_lastWinsMembers_names (List.mem_map_of_mem hm)
    obtain ⟨m', hm', same⟩ := List.mem_map.mp name
    rw [← same]
    exact (areSoundMembers_iff.mp sound m' hm').1
  once := nodup_names_lastWinsMembers ms

theorem AreHeld.insert {ms : Members} (held : ms.AreHeld) (name : String) (v : Json) :
    (ms.insert name v).AreHeld where
  named m hm := by
    rcases List.mem_append.mp hm with hm | hm
    · exact held.named m (List.mem_filter.mp hm).1
    · rw [List.mem_singleton.mp hm]
      rfl
  once := by
    have kept : ((ms.erase name).map Prod.fst).Nodup :=
      held.once.sublist (List.filter_sublist.map _)
    have absent : some name ∉ (ms.erase name).map Prod.fst := by
      intro h
      obtain ⟨m, hm, same⟩ := List.mem_map.mp h
      have other := (List.mem_filter.mp hm).2
      simp [same] at other
    rw [Members.insert, List.map_append, List.map_singleton, ← List.concat_eq_append]
    exact kept.concat absent

end Json.Members

open Json (Members)

/-- A record is read from the fields of its value and from nothing else. -/
theorem IngestRecord.ofJson?_congr {j j' : Json} (h : j.fields fieldNames = j'.fields fieldNames) :
    ofJson? j = ofJson? j' := by
  rw [ofJson?, ofJson?, h]

namespace ResponseBody

/-- A member for an environment that may be missing. -/
def environmentMember (environment : Option Json) : Members :=
  (environment.map fun e => (some "environment", e)).toList

/-- The members of a response that holds a record in a member of its own, with an environment and
other members beside it. -/
def nestedMembers (record : Members) (environment : Option Json) (others : Members) : Members :=
  (some "ingest", .object record) :: environmentMember environment ++ others

/-- The members of a record with an environment in case they state none. -/
def flatMembers (record : Members) (environment : Option Json) : Members :=
  if (record.find? "environment").isSome then record else record ++ environmentMember environment

theorem flatMembers_none (record : Members) : flatMembers record none = record := by
  rw [flatMembers, environmentMember, Option.map_none, Option.toList_none, List.append_nil, ite_self]

theorem flatMembers_some {record : Members} (unstated : record.find? "environment" = none)
    (e : Json) : flatMembers record (some e) = record ++ [(some "environment", e)] := by
  rw [flatMembers, unstated]
  rfl

theorem named_environmentMember (environment : Option Json) :
    (environmentMember environment).named (some "environment") = environmentMember environment := by
  cases environment <;> simp [environmentMember, Members.named]

theorem named_environmentMember_other {name : Literal} (apart : name ≠ some "environment")
    (environment : Option Json) : (environmentMember environment).named name = [] := by
  cases environment <;> simp [environmentMember, Members.named, apart.symm]

theorem getLast?_environmentMember (environment : Option Json) :
    (environmentMember environment).getLast?.map (·.2.lastWins) = environment.map Json.lastWins := by
  cases environment <;> rfl

theorem find?_tagged (asked : Environment) {ms ms' : Members}
    (same : ∀ name, ms.find? name = ms'.find? name) (name : String) :
    (tagged asked ms).find? name = (tagged asked ms').find? name := by
  rw [tagged, tagged, same]
  split
  next => exact same name
  next =>
    by_cases h : name = "environment"
    · rw [h, Members.find?_insert_self, Members.find?_insert_self]
    · rw [Members.find?_insert_other h, Members.find?_insert_other h, same]

theorem areHeld_tagged (asked : Environment) {ms : Members} (held : ms.AreHeld) :
    (tagged asked ms).AreHeld := by
  rw [tagged]
  split
  next => exact held
  next => exact held.insert _ _

/-- Of members that are held a record is read by name. -/
theorem ofJson?_tagged (asked : Environment) {ms ms' : Members} (held : ms.AreHeld)
    (held' : ms'.AreHeld) (same : ∀ name, ms.find? name = ms'.find? name) :
    IngestRecord.ofJson? (.object (tagged asked ms)) =
      IngestRecord.ofJson? (.object (tagged asked ms')) := by
  have tidy := areHeld_tagged asked held
  have tidy' := areHeld_tagged asked held'
  refine IngestRecord.ofJson?_congr ?_
  rw [Json.fields_of_nodup _ tidy.named tidy.once, Json.fields_of_nodup _ tidy'.named tidy'.once]
  exact congrArg some (funext (find?_tagged asked same))

variable {record others outer flat : Members} {environment : Option Json}

theorem find?_lastWins_of_reordered {ms ms' : Members} (h : ms.Reordered ms') (name : String) :
    Members.find? name (Json.lastWinsMembers ms) = Members.find? name (Json.lastWinsMembers ms') := by
  rw [Json.find?_lastWinsMembers, Json.find?_lastWinsMembers, h]

theorem find?_lastWins_flat (name : String) :
    Members.find? name (Json.lastWinsMembers (flatMembers record environment)) =
      if name = "environment" then
        (Members.find? name (Json.lastWinsMembers record)).or (environment.map Json.lastWins)
      else Members.find? name (Json.lastWinsMembers record) := by
  rw [Json.find?_lastWinsMembers, Json.find?_lastWinsMembers, flatMembers, Members.find?_eq_head?]
  by_cases h : name = "environment"
  · subst h
    rw [if_pos rfl]
    cases stated : Members.named (some "environment") record with
    | nil =>
      simp only [List.head?_nil, Option.map_none, Option.isSome_none, Bool.false_eq_true, if_false]
      rw [Members.named_append, stated, named_environmentMember]
      exact getLast?_environmentMember environment
    | cons m ms =>
      obtain ⟨v, last⟩ : ∃ v, (m :: ms).getLast?.map (·.2.lastWins) = some v :=
        ⟨_, by rw [List.getLast?_cons]; rfl⟩
      simp [stated, last]
  · have apart : some name ≠ some "environment" := fun eq => h (Option.some.inj eq)
    rw [if_neg h]
    split
    next => rfl
    next => rw [Members.named_append, named_environmentMember_other apart, List.append_nil]

theorem named_nested_ingest
    (apart : ∀ m ∈ others, m.1 ≠ some "ingest" ∧ m.1 ≠ some "environment") :
    (nestedMembers record environment others).named (some "ingest") =
      [(some "ingest", .object record)] := by
  have none : others.named (some "ingest") = [] :=
    List.filter_eq_nil_iff.mpr fun m hm => by simpa using (apart m hm).1
  rw [nestedMembers, List.cons_append, Members.named_cons_self, Members.named_append, none,
    named_environmentMember_other (by decide)]
  rfl

theorem named_nested_environment
    (apart : ∀ m ∈ others, m.1 ≠ some "ingest" ∧ m.1 ≠ some "environment") :
    (nestedMembers record environment others).named (some "environment") =
      environmentMember environment := by
  have none : others.named (some "environment") = [] :=
    List.filter_eq_nil_iff.mpr fun m hm => by simpa using (apart m hm).2
  rw [nestedMembers, List.cons_append, Members.named_cons_other (by decide), Members.named_append,
    none, named_environmentMember, List.append_nil]

/-- The record of a nested response is the inner one, with the environment beside it if it states
none. -/
theorem recordMembers_nested
    (apart : ∀ m ∈ others, m.1 ≠ some "ingest" ∧ m.1 ≠ some "environment")
    (nested : outer.Reordered (nestedMembers record environment others)) :
    let inner := Json.lastWinsMembers record
    (recordMembers (Json.lastWinsMembers outer) = inner ∧
        ((Members.find? "environment" inner).isSome ∨ environment = none)) ∨
      ∃ e, environment = some e ∧ Members.find? "environment" inner = none ∧
        recordMembers (Json.lastWinsMembers outer) = Members.insert "environment" e.lastWins inner := by
  intro inner
  have ingest : Members.find? "ingest" (Json.lastWinsMembers outer) = some (.object inner) := by
    rw [Json.find?_lastWinsMembers, nested, named_nested_ingest apart]
    rfl
  have beside : Members.find? "environment" (Json.lastWinsMembers outer) =
      environment.map Json.lastWins := by
    rw [Json.find?_lastWinsMembers, nested, named_nested_environment apart,
      getLast?_environmentMember]
  rw [recordMembers, ingest]
  simp only [beside]
  cases stated : Members.find? "environment" inner with
  | some v => simp
  | none => cases environment <;> simp

theorem find?_recordMembers_nested
    (apart : ∀ m ∈ others, m.1 ≠ some "ingest" ∧ m.1 ≠ some "environment")
    (nested : outer.Reordered (nestedMembers record environment others)) (name : String) :
    Members.find? name (recordMembers (Json.lastWinsMembers outer)) =
      Members.find? name (Json.lastWinsMembers (flatMembers record environment)) := by
  rw [find?_lastWins_flat]
  rcases recordMembers_nested apart nested with ⟨same, stated | rfl⟩ | ⟨e, rfl, missing, same⟩
  · obtain ⟨v, hv⟩ := Option.isSome_iff_exists.mp stated
    rw [same]
    by_cases h : name = "environment"
    · rw [if_pos h, h, hv]
      rfl
    · rw [if_neg h]
  · rw [same]
    by_cases h : name = "environment"
    · simp [h]
    · rw [if_neg h]
  · rw [same]
    by_cases h : name = "environment"
    · rw [if_pos h, h, missing, Members.find?_insert_self]
      rfl
    · rw [if_neg h, Members.find?_insert_other h]

/-- A response without a record in a member of its own is the record itself. -/
theorem recordMembers_flat (plain : ∀ ms, (some "ingest", Json.object ms) ∉ record)
    (reordered : flat.Reordered (flatMembers record environment)) :
    recordMembers (Json.lastWinsMembers flat) = Json.lastWinsMembers flat := by
  have ingest : Members.find? "ingest" (Json.lastWinsMembers flat) =
      Members.find? "ingest" (Json.lastWinsMembers record) := by
    rw [find?_lastWins_of_reordered reordered, find?_lastWins_flat, if_neg (by decide)]
  rw [recordMembers]
  split
  next inner found =>
    exfalso
    rw [ingest, Json.find?_lastWinsMembers] at found
    obtain ⟨⟨name, v⟩, last, value⟩ := Option.map_eq_some_iff.mp found
    have mem := List.mem_of_getLast? last
    obtain ⟨inside, same⟩ := List.mem_filter.mp mem
    have name : name = some "ingest" := by simpa using same
    subst name
    cases v with
    | object ms => exact plain ms inside
    | null | bool _ | number _ | string _ | array _ => simp [Json.lastWins] at value
  next => rfl

theorem areSoundMembers_of_reordered {ms ms' : Members} (h : ms.Reordered ms') {depth : Nat}
    (sound : Json.areSoundMembers depth ms = true) : Json.areSoundMembers depth ms' = true := by
  rw [Json.areSoundMembers_iff] at sound ⊢
  exact fun m hm => sound m ((h.mem_iff m).mpr hm)

theorem areSoundMembers_of_object {ms : Members}
    (sound : (Json.object ms).isSound Json.depthLimit = true) :
    Json.areSoundMembers 126 ms = true := by
  simpa [Json.isSound, Json.depthLimit] using sound

/-- Without the object around it the record is nested less deep. -/
theorem areSoundMembers_record (nested : outer.Reordered (nestedMembers record environment others))
    (sound : (Json.object outer).isSound Json.depthLimit = true) :
    Json.areSoundMembers 125 record = true := by
  have parts := Json.areSoundMembers_iff.mp
    (areSoundMembers_of_reordered nested (areSoundMembers_of_object sound))
  have ingest := (parts (some "ingest", .object record) (by simp [nestedMembers])).2
  simpa [Json.isSound] using ingest

theorem isSound_flat (nested : outer.Reordered (nestedMembers record environment others))
    (reordered : flat.Reordered (flatMembers record environment))
    (sound : (Json.object outer).isSound Json.depthLimit = true) :
    (Json.object flat).isSound Json.depthLimit = true := by
  have parts := Json.areSoundMembers_iff.mp
    (areSoundMembers_of_reordered nested (areSoundMembers_of_object sound))
  have inner : ∀ m ∈ record, m.1.isSome = true ∧ m.2.isSound 126 = true := by
    intro m hm
    obtain ⟨named, deep⟩ := Json.areSoundMembers_iff.mp (areSoundMembers_record nested sound) m hm
    exact ⟨named, Json.isSound_of_le (by omega) deep⟩
  have members : Json.areSoundMembers 126 (flatMembers record environment) = true := by
    refine Json.areSoundMembers_iff.mpr fun m hm => ?_
    rw [flatMembers] at hm
    split at hm
    next => exact inner m hm
    next =>
      rcases List.mem_append.mp hm with hm | hm
      · exact inner m hm
      · exact parts m (by simp [nestedMembers, hm])
  have back : (flatMembers record environment).Reordered flat := fun name => (reordered name).symm
  simpa [Json.isSound, Json.depthLimit] using areSoundMembers_of_reordered back members

theorem parse_of_sound {body : String} {ms : Members} (read : Json.read body = some (.object ms))
    (sound : (Json.object ms).isSound Json.depthLimit = true) :
    Json.parse body = some (.object (Json.lastWinsMembers ms)) := by
  simp only [Json.parse, read, sound, if_true]
  rfl

theorem record_of_unsound {body : String} {j : Json} (read : Json.read body = some j)
    (unsound : j.isSound Json.depthLimit = false) (asked : Environment) :
    ResponseBody.record asked body = .error .invalidBody := by
  have whole : Json.parse body = none := by
    simp [Json.parse, read, unsound]
  rw [ResponseBody.record, whole]

/-- A nested response that can be held hands on the record of the flat one, member by member. -/
theorem normalize_nested (plain : ∀ ms, (some "ingest", Json.object ms) ∉ record)
    (apart : ∀ m ∈ others, m.1 ≠ some "ingest" ∧ m.1 ≠ some "environment")
    (nested : outer.Reordered (nestedMembers record environment others))
    (reordered : flat.Reordered (flatMembers record environment))
    (sound : (Json.object outer).isSound Json.depthLimit = true) (asked : Environment) :
    ∃ ms ms' : Members,
      normalize asked (.object (Json.lastWinsMembers outer)) = .object ms ∧
      normalize asked (.object (Json.lastWinsMembers flat)) = .object ms' ∧
      (∀ name, ms.find? name = ms'.find? name) ∧
      IngestRecord.ofJson? (.object ms) = IngestRecord.ofJson? (.object ms') := by
  have held : (recordMembers (Json.lastWinsMembers outer)).AreHeld := by
    have heldInner := Members.areHeld_lastWins (areSoundMembers_record nested sound)
    rcases recordMembers_nested apart nested with ⟨same, -⟩ | ⟨e, -, -, same⟩
    · rw [same]
      exact heldInner
    · rw [same]
      exact heldInner.insert _ _
  have heldFlat := Members.areHeld_lastWins
    (areSoundMembers_of_object (isSound_flat nested reordered sound))
  have same (name : String) : Members.find? name (recordMembers (Json.lastWinsMembers outer)) =
      Members.find? name (Json.lastWinsMembers flat) := by
    rw [find?_recordMembers_nested apart nested, find?_lastWins_of_reordered reordered]
  refine ⟨_, tagged asked (Json.lastWinsMembers flat), rfl, ?_, find?_tagged asked same,
    ofJson?_tagged asked held heldFlat same⟩
  rw [normalize, recordMembers_flat plain reordered]

end ResponseBody

namespace Gateway

open ResponseBody (nestedMembers flatMembers)

variable {record others outer flat : Members} {environment : Option Json}

/-- A response that can be held, with the record in a member of its own, is read as the flat one, by
whatever id and environment it has been asked for: the reader of records is handed the same members.
A response that cannot be held has no JSON body. -/
theorem resultOf_nested (plain : ∀ ms, (some "ingest", Json.object ms) ∉ record)
    (apart : ∀ m ∈ others, m.1 ≠ some "ingest" ∧ m.1 ≠ some "environment")
    (nested : outer.Reordered (nestedMembers record environment others))
    (reordered : flat.Reordered (flatMembers record environment))
    {nestedBody flatBody : List UInt8}
    (readNested : Json.read (Utf8.lossyText nestedBody) = some (.object outer))
    (readFlat : Json.read (Utf8.lossyText flatBody) = some (.object flat))
    (id : IngestId) (asked : Environment) :
    ((Json.object outer).isSound Json.depthLimit = true →
      resultOf id asked (.answered 200 nestedBody) = resultOf id asked (.answered 200 flatBody) ∧
      ∃ ms ms' : Members,
        (Json.parse (Utf8.lossyText nestedBody)).map (ResponseBody.normalize asked) =
          some (.object ms) ∧
        (Json.parse (Utf8.lossyText flatBody)).map (ResponseBody.normalize asked) =
          some (.object ms') ∧
        ∀ name, ms.find? name = ms'.find? name) ∧
    ((Json.object outer).isSound Json.depthLimit = false →
      resultOf id asked (.answered 200 nestedBody) = .error ⟨id, .unknown .invalidBody⟩) := by
  refine ⟨fun sound => ?_, fun unsound => ?_⟩
  · have soundFlat := ResponseBody.isSound_flat nested reordered sound
    have whole := ResponseBody.parse_of_sound readNested sound
    have wholeFlat := ResponseBody.parse_of_sound readFlat soundFlat
    obtain ⟨ms, ms', value, valueFlat, same, read⟩ :=
      ResponseBody.normalize_nested plain apart nested reordered sound asked
    refine ⟨?_, ms, ms', ?_, ?_, same⟩
    · simp only [resultOf, ResponseBody.record, whole, wholeFlat, value, valueFlat, read]
      rfl
    · rw [whole, Option.map_some, value]
    · rw [wholeFlat, Option.map_some, valueFlat]
  · simp only [resultOf, ResponseBody.record_of_unsound readNested unsound]
    rfl

theorem resultOf_of_parse {body : List UInt8} {asked : Environment} {j : Json} {r : IngestRecord}
    (whole : Json.parse (Utf8.lossyText body) = some j)
    (read : IngestRecord.ofJson? (ResponseBody.normalize asked j) = some r) (id : IngestId) :
    resultOf id asked (.answered 200 body) = .ok r := by
  simp [resultOf, ResponseBody.record, whole, read]

/-- The members of a record that says nowhere which environment it lives in, with one that is no
field of a record. -/
def bareMembers (v : Json) : Members :=
  [(some "id", .ofText "a"), (some "space", .ofId "digitised"),
    (some "bag", IngestRecord.bagToJson "b1" none), (some "status", .ofId "succeeded"),
    (some "createdDate", .ofText "2026-10-14T09:00:00Z"), (some "extra", v)]

/-- The same members with the environment. -/
def statedMembers (v : Json) : Members :=
  bareMembers v ++ [(some "environment", .ofText "production")]

def bareRecord : IngestRecord where
  id := ⟨"a"⟩
  space := "digitised"
  externalIdentifier := "b1"
  status := .succeeded
  createdDate := "2026-10-14T09:00:00Z"
  environment := .production

section

variable {v : Json}

theorem areLegibleMembers_bareMembers (legible : v.IsLegible) :
    Json.AreLegibleMembers (bareMembers v) := by
  simp [bareMembers, Json.AreLegibleMembers, Json.IsLegible, Json.ofText, Json.ofId,
    Json.ofMembers, IngestRecord.bagToJson, IngestRecord.bagInfoMembers, Json.optionalMember,
    legible]

theorem areLegibleMembers_statedMembers (legible : v.IsLegible) :
    Json.AreLegibleMembers (statedMembers v) := by
  refine Json.areLegibleMembers_iff.mpr fun m hm => ?_
  rcases List.mem_append.mp hm with hm | hm
  · exact Json.areLegibleMembers_iff.mp (areLegibleMembers_bareMembers legible) m hm
  · rw [List.mem_singleton.mp hm]
    trivial

theorem areSoundMembers_bareMembers (v : Json) (depth : Nat) :
    Json.areSoundMembers (depth + 2) (bareMembers v) = v.isSound (depth + 2) := by
  simp [bareMembers, Json.areSoundMembers, Json.isSound, Json.ofText, Json.ofId, Json.ofMembers,
    IngestRecord.bagToJson, IngestRecord.bagInfoMembers, Json.optionalMember]

theorem lastWins_of_mem_statedMembers (held : v.lastWins = v) :
    ∀ m ∈ statedMembers v, m.2.lastWins = m.2 := by
  simp [statedMembers, bareMembers, held, Json.lastWins, Json.lastWinsMembers, Json.ofText,
    Json.ofId, Json.ofMembers, IngestRecord.bagToJson, IngestRecord.bagInfoMembers,
    Json.optionalMember]

theorem lastWinsMembers_statedMembers (held : v.lastWins = v) :
    Json.lastWinsMembers (statedMembers v) = statedMembers v :=
  Json.lastWinsMembers_eq_self (by simp [statedMembers, bareMembers])
    (lastWins_of_mem_statedMembers held)

theorem lastWinsMembers_bareMembers (held : v.lastWins = v) :
    Json.lastWinsMembers (bareMembers v) = bareMembers v :=
  Json.lastWinsMembers_eq_self (by simp [bareMembers]) fun m hm =>
    lastWins_of_mem_statedMembers held m (List.mem_append_left _ hm)

theorem find?_environment_bareMembers (v : Json) :
    Members.find? "environment" (bareMembers v) = none := by
  simp [Members.find?, bareMembers, List.lookup_cons]

theorem normalize_bareMembers (v : Json) :
    ResponseBody.normalize .production (.object (bareMembers v)) = .object (statedMembers v) := by
  have flat : Members.find? "ingest" (bareMembers v) = none := by
    simp [Members.find?, bareMembers, List.lookup_cons]
  rw [ResponseBody.normalize, ResponseBody.recordMembers, flat, ResponseBody.tagged,
    find?_environment_bareMembers]
  simp [Members.insert, Members.erase, bareMembers, statedMembers, Environment.text]

theorem normalize_statedMembers (asked : Environment) (v : Json) :
    ResponseBody.normalize asked (.object (statedMembers v)) = .object (statedMembers v) := by
  have flat : Members.find? "ingest" (statedMembers v) = none := by
    simp [Members.find?, statedMembers, bareMembers, List.lookup_cons]
  have stated : Members.find? "environment" (statedMembers v) = some (.ofText "production") := by
    simp [Members.find?, statedMembers, bareMembers, List.lookup_cons]
  rw [ResponseBody.normalize, ResponseBody.recordMembers, flat, ResponseBody.tagged, stated]
  rfl

theorem ofJson?_statedMembers (v : Json) :
    IngestRecord.ofJson? (.object (statedMembers v)) = some bareRecord := by
  let ms : List (String × Json) := [("id", .ofText "a"), ("space", .ofId "digitised"),
    ("bag", IngestRecord.bagToJson "b1" none), ("status", .ofId "succeeded"),
    ("createdDate", .ofText "2026-10-14T09:00:00Z"), ("extra", v),
    ("environment", .ofText "production")]
  have fields := Json.fields_ofMembers IngestRecord.fieldNames
    (show (ms.map Prod.fst).Nodup by simp [ms])
  refine Json.bind_of_some fields ?_
  simp [ms, List.lookup_cons, Json.text?_ofText, Json.idField?_ofId,
    IngestRecord.bagOfJson?_bagToJson, Json.optional, Json.withDefault]
  rfl

end

def bodyOf (ms : Members) : List UInt8 :=
  Utf8.bytes (Json.object ms).compact

theorem read_bodyOf {ms : Members} (legible : Json.AreLegibleMembers ms) :
    Json.read (Utf8.lossyText (bodyOf ms)) = some (.object ms) := by
  rw [bodyOf, Utf8.lossyText_bytes]
  exact Json.read_compact legible

/-- The environment stands beside a record that states none. -/
theorem bareRecord_of_nested :
    let outer := nestedMembers (bareMembers .null) (some (.ofText "production"))
      [(some "type", .ofText "Ingest")]
    let flat := flatMembers (bareMembers .null) (some (.ofText "production"))
    Json.read (Utf8.lossyText (bodyOf outer)) = some (.object outer) ∧
      Json.read (Utf8.lossyText (bodyOf flat)) = some (.object flat) ∧
      (Json.object outer).isSound Json.depthLimit = true ∧
      resultOf ⟨"a"⟩ .staging (.answered 200 (bodyOf outer)) = .ok bareRecord := by
  intro outer flat
  have shape : flat = statedMembers .null :=
    ResponseBody.flatMembers_some (find?_environment_bareMembers .null) _
  have legible : Json.IsLegible .null := trivial
  have readNested : Json.read (Utf8.lossyText (bodyOf outer)) = some (.object outer) :=
    read_bodyOf ⟨areLegibleMembers_bareMembers legible, trivial, trivial, trivial⟩
  have readFlat : Json.read (Utf8.lossyText (bodyOf flat)) = some (.object flat) := by
    rw [shape]
    exact read_bodyOf (areLegibleMembers_statedMembers legible)
  have plain : ∀ ms, (some "ingest", Json.object ms) ∉ bareMembers .null := by
    intro ms h
    simp [bareMembers] at h
  have sound : (Json.object outer).isSound Json.depthLimit = true := by
    have inner : Json.areSoundMembers 125 (bareMembers .null) = true :=
      areSoundMembers_bareMembers .null 123
    simp [outer, nestedMembers, ResponseBody.environmentMember, Json.depthLimit, Json.isSound,
      Json.areSoundMembers, Json.ofText, inner]
  obtain ⟨same, -⟩ := (resultOf_nested plain (by decide) (fun _ => rfl) (fun _ => rfl) readNested
    readFlat ⟨"a"⟩ .staging).1 sound
  have whole := ResponseBody.parse_of_sound readFlat
    (ResponseBody.isSound_flat (fun _ => rfl) (fun _ => rfl) sound)
  refine ⟨readNested, readFlat, sound, same.trans (resultOf_of_parse whole ?_ _)⟩
  rw [shape, lastWinsMembers_statedMembers rfl, normalize_statedMembers]
  exact ofJson?_statedMembers .null

/-- So many arrays, one in another. -/
def nestedArrays : Nat → Json
  | 0 => .null
  | n + 1 => .array [nestedArrays n]

theorem isLegible_nestedArrays (n : Nat) : (nestedArrays n).IsLegible := by
  induction n with
  | zero => trivial
  | succ n ih => exact ⟨ih, trivial⟩

theorem isSound_nestedArrays (n depth : Nat) :
    (nestedArrays n).isSound depth = decide (n ≤ depth) := by
  induction n generalizing depth with
  | zero => simp [nestedArrays, Json.isSound]
  | succ n ih =>
    cases depth with
    | zero => simp [nestedArrays, Json.isSound]
    | succ depth => simp [nestedArrays, Json.isSound, Json.areSoundItems, ih]

theorem lastWins_nestedArrays (n : Nat) : (nestedArrays n).lastWins = nestedArrays n := by
  induction n with
  | zero => rfl
  | succ n ih => simp [nestedArrays, Json.lastWins, Json.lastWinsItems, ih]

/-- A record with as many containers as can be held cannot be held with one more around it. -/
theorem deep_record_read_flat_only :
    let record := bareMembers (nestedArrays 126)
    let outer := nestedMembers record none []
    let flat := flatMembers record none
    (∀ ms, (some "ingest", Json.object ms) ∉ record) ∧
      Json.read (Utf8.lossyText (bodyOf outer)) = some (.object outer) ∧
      Json.read (Utf8.lossyText (bodyOf flat)) = some (.object flat) ∧
      resultOf ⟨"a"⟩ .production (.answered 200 (bodyOf outer)) =
        .error ⟨⟨"a"⟩, .unknown .invalidBody⟩ ∧
      resultOf ⟨"a"⟩ .production (.answered 200 (bodyOf flat)) = .ok bareRecord := by
  intro record outer flat
  have shape : flat = record := ResponseBody.flatMembers_none record
  have bare : Json.AreLegibleMembers record :=
    areLegibleMembers_bareMembers (isLegible_nestedArrays 126)
  have readNested : Json.read (Utf8.lossyText (bodyOf outer)) = some (.object outer) :=
    read_bodyOf ⟨bare, trivial⟩
  have readRecord : Json.read (Utf8.lossyText (bodyOf record)) = some (.object record) :=
    read_bodyOf bare
  have inner (depth : Nat) : Json.areSoundMembers (depth + 2) record = decide (126 ≤ depth + 2) := by
    rw [areSoundMembers_bareMembers, isSound_nestedArrays]
  have unsound : (Json.object outer).isSound Json.depthLimit = false := by
    have deep : Json.areSoundMembers 125 record = false := inner 123
    simp [outer, nestedMembers, ResponseBody.environmentMember, Json.depthLimit, Json.isSound,
      Json.areSoundMembers, deep]
  have sound : (Json.object record).isSound Json.depthLimit = true := inner 124
  have whole := ResponseBody.parse_of_sound readRecord sound
  rw [shape]
  refine ⟨?_, readNested, readRecord, ?_, resultOf_of_parse whole ?_ _⟩
  · intro ms h
    simp [record, bareMembers] at h
  · simp only [resultOf, ResponseBody.record_of_unsound readNested unsound]
    rfl
  · rw [lastWinsMembers_bareMembers (lastWins_nestedArrays 126), normalize_bareMembers]
    exact ofJson?_statedMembers (nestedArrays 126)

end Gateway

end IngestViewer
