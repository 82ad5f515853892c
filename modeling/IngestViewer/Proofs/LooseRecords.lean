import IngestViewer.Proofs.JsonRoundTrip
import IngestViewer.Proofs.MemberOrder
import IngestViewer.Proofs.RecordReaders

namespace IngestViewer

namespace Json

open RecordSource (Shape AgreeOn)

/-- Whether a value is made from another by reordering the members of objects whose fields are known
and by adding members of other names to them, with any values. -/
inductive Loosens : Shape → Json → Json → Prop where
  | same {shape : Shape} {j : Json} : Loosens shape j j
  | trans {shape : Shape} {j k l : Json} (first : Loosens shape j k) (next : Loosens shape k l) :
      Loosens shape j l
  | reordered {known : List (String × Shape)} {ms ms' : Members} (perm : ms.Perm ms') :
      Loosens (.fields known) (object ms) (object ms')
  | added {known : List (String × Shape)} {ms : Members} (name : String) (v : Json)
      (unknown : name ∉ known.map Prod.fst) :
      Loosens (.fields known) (object ms) (object ((some name, v) :: ms))
  | inField {known : List (String × Shape)} {name : String} {shape : Shape} {v v' : Json}
      (front back : Members) (field : known.lookup name = some shape) (inner : Loosens shape v v') :
      Loosens (.fields known) (object (front ++ (some name, v) :: back))
        (object (front ++ (some name, v') :: back))
  | inItem {shape : Shape} {x x' : Json} (front back : List Json) (inner : Loosens shape x x') :
      Loosens (.items shape) (array (front ++ x :: back)) (array (front ++ x' :: back))

namespace Members

theorem count_eq_length (name : String) (ms : Members) :
    ms.count name = (ms.named (some name)).length :=
  List.countP_eq_length_filter

/-- The order of members does not count for a name that is there once. -/
theorem find?_of_perm {ms ms' : Members} (perm : ms.Perm ms') {name : String}
    (once : ms.count name ≤ 1) : ms.find? name = ms'.find? name := by
  have namedPerm : (ms.named (some name)).Perm (ms'.named (some name)) := perm.filter _
  rw [count_eq_length] at once
  rw [find?_eq_head?, find?_eq_head?]
  cases found : ms.named (some name) with
  | nil =>
    rw [found] at namedPerm
    rw [List.nil_perm.mp namedPerm]
  | cons m others =>
    rw [found] at namedPerm once
    obtain rfl : others = [] := by simpa using once
    rw [List.singleton_perm.mp namedPerm]

theorem find?_append (name : String) (ms ms' : Members) :
    Members.find? name (ms ++ ms') = (ms.find? name).or (ms'.find? name) :=
  List.lookup_append

end Members

theorem Loosens.isNull_eq {shape : Shape} {j j' : Json} (h : Loosens shape j j') :
    RecordSource.isNull j = RecordSource.isNull j' := by
  induction h with
  | same => rfl
  | trans _ _ first next => exact first.trans next
  | reordered _ | added _ _ _ | inField _ _ _ _ | inItem _ _ _ => rfl

theorem Loosens.eq {j j' : Json} (h : Loosens .whole j j') : j = j' := by
  generalize shaped : Shape.whole = shape at h
  induction h with
  | same => rfl
  | trans _ _ first next => exact (first shaped).trans (next shaped)
  | reordered _ | added _ _ _ | inField _ _ _ _ | inItem _ _ _ => cases shaped

theorem rel_refl {α : Type} {R : α → α → Prop} (refl : ∀ x, R x x) (a : Option α) :
    Option.Rel R a a := by
  cases a with
  | none => exact .none
  | some x => exact .some (refl x)

theorem rel_trans {α : Type} {R : α → α → Prop} (trans : ∀ x y z, R x y → R y z → R x z)
    {a b c : Option α} (first : Option.Rel R a b) (next : Option.Rel R b c) : Option.Rel R a c := by
  cases first with
  | none => exact next
  | some one =>
    cases next with
    | some other => exact .some (trans _ _ _ one other)

variable {known : List (String × Shape)}

theorem mem_names_of_lookup {name : String} {shape : Shape}
    (field : known.lookup name = some shape) : name ∈ known.map Prod.fst := by
  obtain ⟨before, behind, rfl, -⟩ := List.lookup_eq_some_iff.mp field
  simp

theorem agreeOn_refl (f : String → Option Json) : AgreeOn Loosens known f f :=
  fun name _ _ => rel_refl (fun _ => .same) (f name)

theorem agreeOn_trans {f g h : String → Option Json} (first : AgreeOn Loosens known f g)
    (next : AgreeOn Loosens known g h) : AgreeOn Loosens known f h := fun name shape field =>
  rel_trans (fun _ _ _ => .trans) (first name shape field) (next name shape field)

/-- Whether two values show the same fields, up to loosening, to a reader that knows some names. -/
def ShowAlike (known : List (String × Shape)) (j j' : Json) : Prop :=
  Option.Rel (AgreeOn Loosens known) (j.fields (known.map Prod.fst))
    (j'.fields (known.map Prod.fst))

/-- Structures with the same names in them, and the known ones as often, have fields that agree if
the values of those that are there once do. -/
theorem showAlike_of_members {ms ms' : Members}
    (named : (∀ m ∈ ms, m.1.isSome = true) ↔ ∀ m ∈ ms', m.1.isSome = true)
    (counts : ∀ name ∈ known.map Prod.fst, ms.count name = ms'.count name)
    (found : ∀ name shape, known.lookup name = some shape → ms.count name ≤ 1 →
      Option.Rel (Loosens shape) (ms.find? name) (ms'.find? name)) :
    ShowAlike known (object ms) (object ms') := by
  have readable : (ms.all (·.1.isSome) &&
        (known.map Prod.fst).all fun name => decide (ms.count name ≤ 1)) =
      (ms'.all (·.1.isSome) &&
        (known.map Prod.fst).all fun name => decide (ms'.count name ≤ 1)) := by
    rw [Bool.eq_iff_iff]
    simp only [Bool.and_eq_true, List.all_eq_true, decide_eq_true_eq]
    refine and_congr named (forall₂_congr fun name inside => ?_)
    rw [counts name inside]
  rw [ShowAlike, fields, fields, ← readable]
  split
  next once =>
    simp only [Bool.and_eq_true, List.all_eq_true, decide_eq_true_eq] at once
    exact .some fun name shape field =>
      found name shape field (once.2 name (mem_names_of_lookup field))
  next => exact .none

theorem showAlike_of_perm {ms ms' : Members} (perm : ms.Perm ms') :
    ShowAlike known (object ms) (object ms') := by
  refine showAlike_of_members ?_ (fun name _ => perm.countP_eq _) fun name shape _ once => ?_
  · exact forall_congr' fun m => imp_congr_left perm.mem_iff
  · rw [Members.find?_of_perm perm once]
    exact rel_refl (fun _ => .same) _

theorem showAlike_of_added (ms : Members) {name : String} (v : Json)
    (unknown : name ∉ known.map Prod.fst) :
    ShowAlike known (object ms) (object ((some name, v) :: ms)) := by
  have apart : ∀ other ∈ known.map Prod.fst, some name ≠ some other := by
    rintro other inside ⟨⟩
    exact unknown inside
  refine showAlike_of_members (by simp) (fun other inside => ?_) fun other shape field _ => ?_
  · rw [Members.count_eq_length, Members.count_eq_length,
      Members.named_cons_other (apart other inside)]
  · rw [Members.find?_eq_head?, Members.find?_eq_head?,
      Members.named_cons_other (apart other (mem_names_of_lookup field))]
    exact rel_refl (fun _ => .same) _

theorem showAlike_of_inField {name : String} {shape : Shape} {v v' : Json} (front back : Members)
    (field : known.lookup name = some shape) (inner : Loosens shape v v') :
    ShowAlike known (object (front ++ (some name, v) :: back))
      (object (front ++ (some name, v') :: back)) := by
  refine showAlike_of_members ?_ (fun other _ => ?_) fun other shape' field' _ => ?_
  · simp only [List.forall_mem_append, List.forall_mem_cons]
  · simp only [Members.count, List.countP_append, List.countP_cons]
  · rw [Members.find?_append, Members.find?_append]
    -- a member in front of the changed one is found first, and it has not changed
    cases front.find? other with
    | some w => exact rel_refl (fun _ => .same) _
    | none =>
      by_cases same : other = name
      · subst same
        obtain rfl : shape = shape' := Option.some.inj (field.symm.trans field')
        rw [Members.find?, Members.find?, List.lookup_cons_self, List.lookup_cons_self]
        exact .some inner
      · have apart : (some other == some name) = false := by simpa using same
        rw [Members.find?, Members.find?, List.lookup_cons, List.lookup_cons, apart]
        exact rel_refl (fun _ => .same) _

/-- What is known of the fields of a structure does not tell it from one that has been loosened. -/
theorem showAlike_of_loosens {j j' : Json} (h : Loosens (.fields known) j j') :
    ShowAlike known j j' := by
  generalize shaped : Shape.fields known = shape at h
  induction h with
  | same => exact rel_refl agreeOn_refl _
  | trans _ _ first next =>
    exact rel_trans (R := AgreeOn Loosens known) (fun _ _ _ => agreeOn_trans) (first shaped)
      (next shaped)
  | reordered perm =>
    cases shaped
    exact showAlike_of_perm perm
  | added name v unknown =>
    cases shaped
    exact showAlike_of_added _ v unknown
  | inField front back field inner =>
    cases shaped
    exact showAlike_of_inField front back field inner
  | inItem _ _ _ => cases shaped

theorem mapM_replace {α : Type} {read : Json → Option α} {x x' : Json} (same : read x = read x')
    (front back : List Json) :
    (front ++ x :: back).mapM read = (front ++ x' :: back).mapM read := by
  induction front with
  | nil => rw [List.nil_append, List.nil_append, List.mapM_cons, List.mapM_cons, same]
  | cons y front ih => rw [List.cons_append, List.cons_append, List.mapM_cons, List.mapM_cons, ih]

theorem list?_of_loosens {α : Type} {shape : Shape} {read : Json → Option α}
    (keeps : ∀ j j', Loosens shape j j' → read j = read j') {j j' : Json}
    (h : Loosens (.items shape) j j') : RecordSource.list? read j = RecordSource.list? read j' := by
  generalize shaped : Shape.items shape = items at h
  induction h with
  | same => rfl
  | trans _ _ first next => exact (first shaped).trans (next shaped)
  | inItem front back inner =>
    cases shaped
    exact mapM_replace (keeps _ _ inner) front back
  | reordered _ | added _ _ _ | inField _ _ _ _ => cases shaped

/-- A value shows the same when it has been loosened. -/
theorem alikeBy_loosens : RecordSource.AlikeBy Loosens where
  isNull _ _ _ h := h.isNull_eq
  text? _ _ h := h.eq ▸ rfl
  bool? _ _ h := h.eq ▸ rfl
  count? _ _ h := h.eq ▸ rfl
  textOrNumber? _ _ h := h.eq ▸ rfl
  list? _ p q read j j' h := by
    have same : p = q := funext fun x => read x x .same
    subst same
    exact list?_of_loosens read h
  fields _ _ _ h := showAlike_of_loosens h

end Json

/-- A text that is read as a record spells a value. Whatever spells one that it is made into by
reordering members of its structures and by adding unknown ones, with any white space, is read as
the same record, and so it is written again alike. -/
theorem IngestRecord.ofText?_loosened {s : String} {r : IngestRecord} (known : ofText? s = some r) :
    (∃ j, Json.IsSpelled j s) ∧
      ∀ j j' s', Json.IsSpelled j s → Json.Loosens .record j j' → Json.IsSpelled j' s' →
        ofText? s' = some r ∧ (ofText? s').map text = (ofText? s).map text := by
  obtain ⟨j, read, record⟩ := Option.bind_eq_some_iff.mp known
  have spelled := Json.read_eq_some_iff.mp read
  refine ⟨⟨j, spelled⟩, fun k k' s' spelledK loosened spelled' => ?_⟩
  obtain rfl := spelled.eq spelledK
  have same : ofText? s' = some r := by
    have kept := RecordSource.record?_agree Json.alikeBy_loosens _ _ loosened
    rw [RecordSource.record?_json, RecordSource.record?_json, record] at kept
    rw [ofText?, Json.read_eq_some_iff.mpr spelled', Option.bind_eq_bind, Option.bind_some, kept]
  exact ⟨same, by rw [same, known]⟩

/-- The members of a record but for its events, with those of its space. -/
def eventlessMembers (space : Json.Members) : Json.Members :=
  [(some "id", .ofText "a"), (some "space", .object space),
    (some "bag", .ofMembers [("info", .ofMembers [("externalIdentifier", .ofText "b")])]),
    (some "status", .ofId "failed"), (some "createdDate", .ofText "2026"),
    (some "environment", .ofText "staging")]

def eventsMember (event : Json.Members) : Literal × Json :=
  (some "events", .array [.object event])

def plainRecord : Json :=
  .object (eventlessMembers [(some "id", .ofText "s")] ++
    [eventsMember [(some "createdDate", .ofText "2025"), (some "description", .ofText "x")]])

/-- The record with its event first and described before it is dated, with members that nothing is
known of and one that is known of other structures. -/
def strangeRecord : Json :=
  .object (eventsMember [(some "description", .ofText "x"), (some "createdDate", .ofText "2025")] ::
    (some "type", .array [.object []]) :: (some "type", .null) ::
    eventlessMembers [(some "bucket", .ofNat 7), (some "id", .ofText "s")])

theorem loosens_strangeRecord : Json.Loosens .record plainRecord strangeRecord := by
  refine .trans (.inField [_] _ rfl (.added "bucket" (.ofNat 7) (by decide))) ?_
  refine .trans (.inField (eventlessMembers _) [] rfl (.inItem [] [] (.reordered (.swap ..)))) ?_
  refine .trans (.added "type" .null (by decide)) ?_
  refine .trans (.added "type" (.array [.object []]) (by decide)) ?_
  exact .reordered (List.perm_append_singleton _ (_ :: _ :: eventlessMembers _))

theorem isLegible_plainRecord : plainRecord.IsLegible := by
  simp [plainRecord, eventlessMembers, eventsMember, Json.ofMembers, Json.ofId, Json.ofText,
    Json.IsLegible, Json.AreLegibleMembers, Json.AreLegibleItems]

theorem isLegible_strangeRecord : strangeRecord.IsLegible := by
  simp [strangeRecord, eventlessMembers, eventsMember, Json.ofMembers, Json.ofId, Json.ofText,
    Json.ofNat, Json.IsLegible, Json.AreLegibleMembers, Json.AreLegibleItems, Json.Number.IsLegible]

/-- The plain record without any white space is read as the strange one is on lines of its own. -/
theorem IngestRecord.ofText?_strangeRecord :
    ∃ r, ofText? plainRecord.compact = some r ∧ ofText? strangeRecord.pretty = some r := by
  have read := Json.read_compact isLegible_plainRecord
  obtain ⟨r, known⟩ : ∃ r, ofText? plainRecord.compact = some r := by
    rw [ofText?, read]
    exact ⟨_, rfl⟩
  have spelled := Json.isSpelled_pretty isLegible_strangeRecord
  exact ⟨r, known, ((ofText?_loosened known).2 _ _ _ (Json.read_eq_some_iff.mp read)
    loosens_strangeRecord spelled).1⟩

end IngestViewer
