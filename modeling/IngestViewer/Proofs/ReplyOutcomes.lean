import IngestViewer.Gateway
import IngestViewer.Proofs.JsonGrammar
import IngestViewer.Proofs.Utf8RoundTrip

namespace IngestViewer

namespace ResponseBody

open Json (Members)

/-- A value states a message as the one member `message` of an object whose names are texts, or as
the one item of an array. -/
inductive States (m : String) : Json → Prop where
  | member {before after : Members} (texts : ∀ x ∈ before ++ after, x.1 ≠ none)
      (once : ∀ x ∈ before ++ after, x.1 ≠ some "message") :
      States m (.object (before ++ (some "message", .string (some m)) :: after))
  | item : States m (.array [.string (some m)])

/-- What bytes are read as: the text that they are the bytes of, or else one with U+FFFD in it. -/
def IsReadAs (body : List UInt8) (text : String) : Prop :=
  Utf8.bytes text = body ∨ (∀ t, Utf8.bytes t ≠ body) ∧ text = Utf8.lossyText body

/-- A body says a message if it is read as the spelling of a value that states it. -/
def Says (body : List UInt8) (m : String) : Prop :=
  ∃ text j, IsReadAs body text ∧ Json.IsSpelled j text ∧ States m j

theorem isReadAs_iff {body : List UInt8} {text : String} :
    IsReadAs body text ↔ text = Utf8.lossyText body := by
  constructor
  · rintro (rfl | ⟨-, rfl⟩)
    · exact (Utf8.lossyText_bytes text).symm
    · rfl
  · rintro rfl
    by_cases encoded : ∃ t, Utf8.bytes t = body
    · obtain ⟨t, rfl⟩ := encoded
      exact .inl (by rw [Utf8.lossyText_bytes])
    · exact .inr ⟨fun t same => encoded ⟨t, same⟩, rfl⟩

theorem count_of_divided (before after : Members) (name : String) (v : Json) :
    Members.count name (before ++ (some name, v) :: after) =
      Members.count name (before ++ after) + 1 := by
  simp only [Members.count, List.countP_append, List.countP_cons, beq_self_eq_true, if_true]
  omega

theorem count_eq_zero_iff {ms : Members} {name : String} :
    Members.count name ms = 0 ↔ ∀ x ∈ ms, x.1 ≠ some name := by
  simp [Members.count]

theorem all_isSome_iff {ms : Members} :
    ms.all (·.1.isSome) = true ↔ ∀ x ∈ ms, x.1 ≠ none := by
  simp [Option.isSome_iff_ne_none]

/-- A structure with one field is read from an object if the names are texts and the field is no
member twice. -/
theorem fields_object_iff {ms : Members} {name : String} {v : Json} :
    (∃ field, Json.fields [name] (.object ms) = some field ∧ field name = some v) ↔
      ∃ before after, ms = before ++ (some name, v) :: after ∧
        (∀ x ∈ before ++ after, x.1 ≠ none) ∧ ∀ x ∈ before ++ after, x.1 ≠ some name := by
  simp only [Json.fields, List.all_cons, List.all_nil, Bool.and_true]
  constructor
  · rintro ⟨field, read, found⟩
    split at read
    next good =>
      cases read
      obtain ⟨texts, once⟩ := Bool.and_eq_true_iff.mp good
      obtain ⟨before, after, rfl, -⟩ := List.lookup_eq_some_iff.mp found
      refine ⟨before, after, rfl, fun x among => ?_, count_eq_zero_iff.mp ?_⟩
      · refine all_isSome_iff.mp texts x ?_
        rcases List.mem_append.mp among with h | h <;> simp [h]
      · have counted := of_decide_eq_true once
        rw [count_of_divided] at counted
        omega
    next => cases read
  · rintro ⟨before, after, rfl, texts, once⟩
    have named : ∀ x ∈ before ++ (some name, v) :: after, x.1 ≠ none := by
      intro x among
      rcases List.mem_append.mp among with h | h
      · exact texts x (List.mem_append_left _ h)
      · rcases List.mem_cons.mp h with rfl | h
        · exact nofun
        · exact texts x (List.mem_append_right _ h)
    rw [all_isSome_iff.mpr named, count_of_divided, count_eq_zero_iff.mpr once]
    refine ⟨_, rfl, List.lookup_eq_some_iff.mpr ⟨before, after, rfl, fun x h => ?_⟩⟩
    exact bne_iff_ne.mpr (once x (List.mem_append_left _ h)).symm

theorem optional_text?_eq_some_iff {field : Option Json} {m : String} :
    Json.optional Json.text? field = some (some m) ↔ field = some (.string (some m)) := by
  match field with
  | none => simp [Json.optional]
  | some .null => simp [Json.optional]
  | some (.string s) => simp [Json.optional, Json.text?]
  | some (.bool _) => simp [Json.optional, Json.text?]
  | some (.number _) => simp [Json.optional, Json.text?]
  | some (.array _) => simp [Json.optional, Json.text?]
  | some (.object _) => simp [Json.optional, Json.text?]

theorem states_iff {m : String} {j : Json} :
    States m j ↔ ∃ field, j.fields ["message"] = some field ∧
      field "message" = some (.string (some m)) := by
  constructor
  · rintro (⟨texts, once⟩ | _)
    · exact fields_object_iff.mpr ⟨_, _, rfl, texts, once⟩
    · exact ⟨_, rfl, rfl⟩
  · rintro ⟨field, read, stated⟩
    match j with
    | .object ms =>
      obtain ⟨before, after, rfl, texts, once⟩ := fields_object_iff.mp ⟨field, read, stated⟩
      exact .member texts once
    | .array [] =>
      cases read
      cases stated
    | .array [x] =>
      cases read
      cases stated
      exact .item
    | .array (_ :: _ :: _) => cases read

theorem message?_eq_some_iff {text m : String} :
    message? text = some m ↔ ∃ j, Json.IsSpelled j text ∧ States m j := by
  simp only [message?, Option.bind_eq_bind, Option.bind_eq_some_iff, Json.read_eq_some_iff,
    states_iff]
  constructor
  · rintro ⟨j, spelled, field, read, message, stated, rfl⟩
    exact ⟨j, spelled, field, read, optional_text?_eq_some_iff.mp stated⟩
  · rintro ⟨j, spelled, field, read, stated⟩
    exact ⟨j, spelled, field, read, some m, optional_text?_eq_some_iff.mpr stated, rfl⟩

theorem message?_lossyText_eq_some_iff {body : List UInt8} {m : String} :
    message? (Utf8.lossyText body) = some m ↔ Says body m := by
  rw [message?_eq_some_iff]
  constructor
  · rintro ⟨j, spelled, stated⟩
    exact ⟨_, j, isReadAs_iff.mpr rfl, spelled, stated⟩
  · rintro ⟨text, j, read, spelled, stated⟩
    cases isReadAs_iff.mp read
    exact ⟨j, spelled, stated⟩

theorem message?_lossyText_eq_none_iff {body : List UInt8} :
    message? (Utf8.lossyText body) = none ↔ ∀ m, ¬Says body m := by
  simp only [Option.eq_none_iff_forall_ne_some, ne_eq, message?_lossyText_eq_some_iff]

/-- No body says two messages. -/
theorem Says.eq {body : List UInt8} {m m' : String} (said : Says body m) (said' : Says body m') :
    m = m' := by
  have same := message?_lossyText_eq_some_iff.mpr said
  rw [message?_lossyText_eq_some_iff.mpr said'] at same
  exact (Option.some.inj same).symm

end ResponseBody

open ResponseBody (Says)

/-- A reply that there is no such ingest: it says so, or it says nothing that can be read and has
the status for it. -/
def Reply.SaysNone : Reply → Prop
  | .answered status body =>
    status ≠ 200 ∧ (Says body "Ingest not found." ∨ (∀ m, ¬Says body m) ∧ status = 404)
  | _ => False

/-- What a reply from an environment brings: a record, or the fault that it stands for. -/
inductive Reply.Brings (asked : Environment) : Reply → Except LookupFault IngestRecord → Prop where
  | record {text : String} {body : List UInt8} {r : IngestRecord}
      (read : ResponseBody.IsReadAs body text) (found : ResponseBody.record asked text = .ok r) :
      Brings asked (.answered 200 body) (.ok r)
  | unusable {text : String} {body : List UInt8} {detail : FailureDetail}
      (read : ResponseBody.IsReadAs body text)
      (failed : ResponseBody.record asked text = .error detail) :
      Brings asked (.answered 200 body) (.error (.unknown detail))
  | none {reply : Reply} (none : reply.SaysNone) : Brings asked reply (.error .ingestNotFound)
  | invalid {status : Nat} {body : List UInt8} (refused : status ≠ 200)
      (said : Says body "Invalid ingest ID." ∨ (∀ m, ¬Says body m) ∧ status = 400) :
      Brings asked (.answered status body) (.error .invalidIngestId)
  | said {status : Nat} {body : List UInt8} {m : String} (refused : status ≠ 200)
      (said : Says body m) (other : m ≠ "Invalid ingest ID." ∧ m ≠ "Ingest not found.") :
      Brings asked (.answered status body) (.error (.unknown (.status status (some m))))
  | silent {status : Nat} {body : List UInt8} (refused : status ≠ 200) (silent : ∀ m, ¬Says body m)
      (other : status ≠ 400 ∧ status ≠ 404) :
      Brings asked (.answered status body) (.error (.unknown (.status status .none)))
  | timedOut : Brings asked .timedOut (.error (.unknown .timedOut))
  | unreachable : Brings asked .unreachable (.error (.unknown .connectionFailed))
  | broken : Brings asked .broken (.error (.unknown .requestFailed))

/-- A refusal is classed by what it says, and by its status if it says nothing. -/
theorem Reply.brings_of_refused (asked : Environment) {status : Nat} (body : List UInt8)
    (refused : status ≠ 200) :
    (answered status body).Brings asked
      (.error (LookupFailure.faultOf status (ResponseBody.message? (Utf8.lossyText body)))) := by
  cases message : ResponseBody.message? (Utf8.lossyText body) with
  | some m =>
    have said := ResponseBody.message?_lossyText_eq_some_iff.mp message
    rw [LookupFailure.faultOf]
    by_cases invalid : m = LookupFailure.invalidIdMessage
    · subst invalid
      rw [if_pos rfl]
      exact .invalid refused (.inl said)
    · by_cases absent : m = LookupFailure.notFoundMessage
      · subst absent
        rw [if_neg invalid, if_pos rfl]
        exact .none ⟨refused, .inl said⟩
      · rw [if_neg invalid, if_neg absent]
        exact .said refused said ⟨invalid, absent⟩
  | none =>
    have silent := ResponseBody.message?_lossyText_eq_none_iff.mp message
    rw [LookupFailure.faultOf]
    by_cases invalid : status = 400
    · rw [if_pos invalid]
      exact .invalid refused (.inr ⟨silent, invalid⟩)
    · by_cases absent : status = 404
      · rw [if_neg invalid, if_pos absent]
        exact .none ⟨refused, .inr ⟨silent, absent⟩⟩
      · rw [if_neg invalid, if_neg absent]
        exact .silent refused silent ⟨invalid, absent⟩

theorem Gateway.brings_resultOf (id : IngestId) (e : Environment) (reply : Reply) :
    ∃ outcome, reply.Brings e outcome ∧ resultOf id e reply = outcome.mapError (⟨id, ·⟩) := by
  cases reply with
  | timedOut => exact ⟨_, .timedOut, rfl⟩
  | unreachable => exact ⟨_, .unreachable, rfl⟩
  | broken => exact ⟨_, .broken, rfl⟩
  | answered status body =>
    by_cases success : status = 200
    · subst success
      have text : ResponseBody.IsReadAs body (Utf8.lossyText body) :=
        ResponseBody.isReadAs_iff.mpr rfl
      cases read : ResponseBody.record e (Utf8.lossyText body) with
      | ok r =>
        refine ⟨_, .record text read, ?_⟩
        simp only [resultOf, if_true, read]
        rfl
      | error detail =>
        refine ⟨_, .unusable text read, ?_⟩
        simp only [resultOf, if_true, read]
        rfl
    · refine ⟨_, Reply.brings_of_refused e body success, ?_⟩
      simp only [resultOf, success, if_false]
      rfl

/-- A reply that there is no such ingest brings nothing else. -/
theorem Reply.SaysNone.eq_of_brings {e : Environment} {reply : Reply}
    {outcome : Except LookupFault IngestRecord} (none : reply.SaysNone)
    (brings : reply.Brings e outcome) : outcome = .error .ingestNotFound := by
  cases brings with
  | record => exact absurd rfl none.1
  | unusable => exact absurd rfl none.1
  | none => rfl
  | invalid refused said =>
    obtain ⟨-, absent | ⟨silent, absent⟩⟩ := none
    · rcases said with said | ⟨silent, -⟩
      · exact absurd (said.eq absent) (by decide)
      · exact absurd absent (silent _)
    · rcases said with said | ⟨-, invalid⟩
      · exact absurd said (silent _)
      · omega
  | said refused said other =>
    obtain ⟨-, absent | ⟨silent, -⟩⟩ := none
    · exact absurd (said.eq absent) other.2
    · exact absurd said (silent _)
  | silent refused silent other =>
    obtain ⟨-, absent | ⟨-, absent⟩⟩ := none
    · exact absurd absent (silent _)
    · exact absurd absent other.2
  | timedOut => exact none.elim
  | unreachable => exact none.elim
  | broken => exact none.elim

end IngestViewer
