import IngestViewer.Proofs.MemberOrder
import IngestViewer.Proofs.RecordRoundTrip
import IngestViewer.Proofs.RecordReaders
import IngestViewer.Proofs.ValueParts
import Mathlib.Data.String.Basic

namespace IngestViewer

namespace HeldNumber

theorem map_text_hold? (n : Json.Number) : (hold? n).map text = n.text? := by
  have rounded : (hold?.rounded n).map text = Json.Number.text?.floating n := by
    rw [hold?.rounded, Json.Number.text?.floating, Option.map_map]
    rfl
  cases whole : n.integer? with
  | some i =>
    simp only [hold?, Json.Number.text?, whole]
    split
    next => rfl
    next => exact rounded
  | none =>
    simp only [hold?, Json.Number.text?, whole]
    exact rounded

theorem text?_of_hold? {n : Json.Number} {m : HeldNumber} (held : hold? n = some m) :
    n.text? = some m.text := by
  rw [← map_text_hold?, held]
  rfl

theorem count?_of_hold? {n : Json.Number} {m : HeldNumber} (held : hold? n = some m) :
    (Json.number n).count? = m.count? := by
  have rounded (h : hold?.rounded n = some m) : m.count? = none := by
    obtain ⟨x, -, rfl⟩ := Option.map_eq_some_iff.mp h
    rfl
  cases whole : n.integer? with
  | some i =>
    simp only [hold?, whole] at held
    simp only [Json.count?, whole]
    split at held
    next =>
      cases held
      rfl
    next large =>
      have out : ¬(0 ≤ i ∧ i < 0x100000000) := by
        simp only [Json.Number.isExact, Bool.and_eq_true, decide_eq_true_eq] at large
        omega
      rw [if_neg out, rounded held]
  | none =>
    simp only [hold?, whole] at held
    simp only [Json.count?, whole]
    exact (rounded held).symm

end HeldNumber

namespace HeldValue

theorem lookup_insert (name other : String) (v : HeldValue) (ms : Members) :
    (ms.insert name v).lookup other = if other = name then some v else ms.lookup other := by
  induction ms with
  | nil =>
    by_cases same : other = name
    · simp [Members.insert, same]
    · simp [Members.insert, List.lookup_cons, beq_eq_false_iff_ne.mpr same, same]
  | cons m ms ih =>
    obtain ⟨n, w⟩ := m
    rw [Members.insert]
    split
    next same =>
      subst same
      by_cases found : other = name
      · simp [found]
      · simp [List.lookup_cons, beq_eq_false_iff_ne.mpr found, found]
    next apart =>
      split
      next =>
        by_cases found : other = name
        · simp [found]
        · simp [List.lookup_cons, beq_eq_false_iff_ne.mpr found, found]
      next =>
        rw [List.lookup_cons, List.lookup_cons, ih]
        by_cases found : other = name
        · have missed : (other == n) = false := beq_eq_false_iff_ne.mpr (found ▸ apart)
          simp [found ▸ missed, found]
        · simp [found]

mutual

theorem isSome_hold? : ∀ (depth : Nat) (j : Json), (hold? depth j).isSome = j.isSound depth
  | _, .null | _, .bool _ => by simp [hold?, Json.isSound]
  | _, .number n => by
    rw [hold?, Option.isSome_map, Json.isSound, Json.Number.isFinite, ← HeldNumber.map_text_hold?,
      Option.isSome_map]
  | _, .string s => by rw [hold?, Option.isSome_map, Json.isSound]
  | 0, .array _ | 0, .object _ => by simp [hold?, Json.isSound]
  | depth + 1, .array xs => by
    rw [hold?, Option.isSome_map, Json.isSound, isSome_holdItems?]
  | depth + 1, .object ms => by
    rw [hold?, Option.isSome_map, Json.isSound, isSome_holdMembers?]

theorem isSome_holdItems? : ∀ (depth : Nat) (xs : List Json),
    (holdItems? depth xs).isSome = Json.areSoundItems depth xs
  | _, [] => rfl
  | depth, x :: xs => by
    rw [Json.areSoundItems, ← isSome_hold? depth x, ← isSome_holdItems? depth xs, holdItems?]
    cases hold? depth x <;> cases holdItems? depth xs <;> rfl

theorem isSome_holdMembers? : ∀ (depth : Nat) (there : Members) (ms : Json.Members),
    (holdMembers? depth there ms).isSome = Json.areSoundMembers depth ms
  | _, _, [] => rfl
  | depth, there, (name, x) :: ms => by
    rw [Json.areSoundMembers, ← isSome_hold? depth x, holdMembers?]
    cases name with
    | none => rfl
    | some name =>
      cases held : hold? depth x with
      | none => rfl
      | some v =>
        have others := isSome_holdMembers? depth (there.insert name v) ms
        simpa using others

end

/-- A value that is held for a written one that repeats no name. -/
structure StandsFor (j : Json) (v : HeldValue) : Prop where
  held : ∃ depth, hold? depth j = some v
  once : j.namesOnce = true

theorem standsFor_items {depth : Nat} {xs : List Json} {vs : List HeldValue}
    (held : holdItems? depth xs = some vs) (once : ∀ x ∈ xs, x.namesOnce = true) :
    List.Forall₂ StandsFor xs vs := by
  induction xs generalizing vs with
  | nil =>
    cases held
    exact .nil
  | cons x xs ih =>
    obtain ⟨first, others⟩ := List.forall_mem_cons.mp once
    simp only [holdItems?, Option.bind_eq_bind, Option.bind_eq_some_iff] at held
    obtain ⟨v, hv, vs, hvs, held⟩ := held
    cases held
    exact .cons ⟨⟨depth, hv⟩, first⟩ (ih hvs others)

/-- A name stands for what the last of its members has put there. -/
theorem lookup_of_holdMembers? {depth : Nat} {ms : Json.Members} {there vs : Members}
    (held : holdMembers? depth there ms = some vs) (nodup : (ms.map Prod.fst).Nodup)
    (name : String) :
    vs.lookup name = match ms.find? name with
      | some x => hold? depth x
      | none => there.lookup name := by
  induction ms generalizing there with
  | nil =>
    cases held
    rfl
  | cons m ms ih =>
    obtain ⟨n, x⟩ := m
    obtain ⟨fresh, others⟩ := List.nodup_cons.mp nodup
    simp only [holdMembers?, Option.bind_eq_bind, Option.bind_eq_some_iff] at held
    obtain ⟨n, rfl, v, hv, held⟩ := held
    -- the name of this member is that of none behind it, so nothing takes its place
    rw [ih held others, lookup_insert, Json.Members.find?, Json.Members.find?, List.lookup_cons]
    by_cases same : name = n
    · subst same
      have absent : ms.lookup (some name) = none := by
        refine List.lookup_eq_none_iff.mpr fun m hm => ?_
        have there : m.1 ∈ ms.map Prod.fst := List.mem_map_of_mem hm
        have other : some name ≠ m.1 := fun eq => fresh (eq ▸ there)
        simp [other]
      simp [absent, hv]
    · have other : (some name == some n) = false := by simp [same]
      rw [other, if_neg same]

theorem mem_of_find? {name : String} {ms : Json.Members} {x : Json}
    (found : ms.find? name = some x) : (some name, x) ∈ ms := by
  obtain ⟨before, after, same, -⟩ := List.lookup_eq_some_iff.mp found
  simp [same]

theorem isSome_name_of_holdMembers? {depth : Nat} {ms : Json.Members} {there vs : Members}
    (held : holdMembers? depth there ms = some vs) : ∀ m ∈ ms, m.1.isSome = true := by
  have sound := isSome_holdMembers? depth there ms
  rw [held, Option.isSome_some] at sound
  intro m hm
  exact (Json.areSoundMembers_iff.mp sound.symm m hm).1

/-- The shapes of a written value and of the one that is held for it. -/
inductive Shapes : Json → HeldValue → Prop where
  | null : Shapes .null .null
  | bool (b : Bool) : Shapes (.bool b) (.bool b)
  | number {n : Json.Number} {m : HeldNumber} (held : HeldNumber.hold? n = some m) :
      Shapes (.number n) (.number m)
  | string (s : String) : Shapes (.string (some s)) (.string s)
  | array {xs : List Json} {vs : List HeldValue} (items : List.Forall₂ StandsFor xs vs) :
      Shapes (.array xs) (.array vs)
  | object {ms : Json.Members} {vs : Members} (named : ∀ m ∈ ms, m.1.isSome = true)
      (nodup : (ms.map Prod.fst).Nodup)
      (members : ∀ name, Option.Rel StandsFor (ms.find? name) (vs.lookup name)) :
      Shapes (.object ms) (.object vs)

theorem shapes_of_standsFor {j : Json} {v : HeldValue} (h : StandsFor j v) : Shapes j v := by
  obtain ⟨⟨depth, held⟩, once⟩ := h
  cases j with
  | null =>
    rw [hold?] at held
    cases held
    exact .null
  | bool b =>
    rw [hold?] at held
    cases held
    exact .bool b
  | number n =>
    rw [hold?] at held
    obtain ⟨m, hm, rfl⟩ := Option.map_eq_some_iff.mp held
    exact .number hm
  | string s =>
    rw [hold?] at held
    obtain ⟨t, rfl, rfl⟩ := Option.map_eq_some_iff.mp held
    exact .string t
  | array xs =>
    cases depth with
    | zero => simp [hold?] at held
    | succ depth =>
      rw [hold?] at held
      obtain ⟨vs, hvs, rfl⟩ := Option.map_eq_some_iff.mp held
      exact .array (standsFor_items hvs (Json.namesOnce_array.mp once))
  | object ms =>
    cases depth with
    | zero => simp [hold?] at held
    | succ depth =>
      rw [hold?] at held
      obtain ⟨vs, hvs, rfl⟩ := Option.map_eq_some_iff.mp held
      obtain ⟨nodup, parts⟩ := Json.namesOnce_object.mp once
      have named := isSome_name_of_holdMembers? hvs
      refine .object named nodup fun name => ?_
      have stands := lookup_of_holdMembers? hvs nodup name
      cases found : Json.Members.find? name ms with
      | none =>
        simp only [found] at stands
        rw [stands]
        exact .none
      | some x =>
        simp only [found] at stands
        have mem := mem_of_find? found
        have sound := isSome_holdMembers? depth [] ms
        rw [hvs, Option.isSome_some] at sound
        have inner := (Json.areSoundMembers_iff.mp sound.symm _ mem).2
        obtain ⟨v, hv⟩ := Option.isSome_iff_exists.mp ((isSome_hold? depth x).trans inner)
        rw [stands, hv]
        exact .some ⟨⟨depth, hv⟩, parts _ mem⟩

theorem getElem?_related {xs : List Json} {vs : List HeldValue}
    (items : List.Forall₂ StandsFor xs vs) (i : Nat) : Option.Rel StandsFor xs[i]? vs[i]? := by
  induction items generalizing i with
  | nil => exact .none
  | cons first _ ih =>
    cases i with
    | zero => exact .some first
    | succ i => exact ih i

/-- A value that is held shows what the written one shows. -/
theorem alike_standsFor : RecordSource.Alike StandsFor where
  isNull j v h := by
    cases shapes_of_standsFor h <;> rfl
  text? j v h := by
    cases shapes_of_standsFor h <;> rfl
  bool? j v h := by
    cases shapes_of_standsFor h <;> rfl
  count? j v h := by
    cases shapes_of_standsFor h with
    | number held => exact HeldNumber.count?_of_hold? held
    | _ => rfl
  textOrNumber? j v h := by
    cases shapes_of_standsFor h with
    | number held => exact HeldNumber.text?_of_hold? held
    | _ => rfl
  items? j v h := by
    cases shapes_of_standsFor h with
    | array items => exact .some items
    | _ => exact .none
  fields j v h names := by
    cases shapes_of_standsFor h with
    | object named nodup members =>
      have written := Json.fields_of_nodup names named nodup
      show Option.Rel _ (Json.fields names _) (HeldValue.fields names _)
      rw [written, HeldValue.fields]
      exact .some members
    | array items =>
      have length := items.length_eq
      show Option.Rel _ (Json.fields names _) (HeldValue.fields names _)
      rw [Json.fields, HeldValue.fields, length]
      split
      next =>
        exact .some fun name => getElem?_related items _
      next => exact .none
    | _ => exact .none

end HeldValue

theorem readers_agree_of_hold? {s : String} {j : Json} {v : HeldValue} (written : Json.read s = some j)
    (held : HeldValue.hold? Json.depthLimit j = some v) (once : j.namesOnce = true) :
    IngestRecord.ofText? s = RecordSource.record? v ∧
      RecentIngest.listOfText? s = RecordSource.list? RecordSource.recentIngest? v := by
  have alike := HeldValue.alike_standsFor
  have stands : HeldValue.StandsFor j v := ⟨⟨_, held⟩, once⟩
  have straight : IngestRecord.ofText? s = IngestRecord.ofJson? j := by
    rw [IngestRecord.ofText?, written]
    rfl
  have straightList : RecentIngest.listOfText? s = RecentIngest.listOfJson? j := by
    rw [RecentIngest.listOfText?, written]
    rfl
  have entries : RecordSource.list? RecordSource.recentIngest? j = RecentIngest.listOfJson? j := by
    rw [funext RecordSource.recentIngest?_json]
    rfl
  constructor
  · rw [straight, ← RecordSource.record?_json]
    exact RecordSource.record?_eq alike j v stands
  · rw [straightList, ← entries]
    exact RecordSource.list?_eq alike (RecordSource.recentIngest?_eq alike) j v stands

/-- What is not sound is not read as a value. -/
theorem unread_of_unsound {s : String} {j : Json} (written : Json.read s = some j)
    (unsound : j.isSound Json.depthLimit = false) :
    HeldValue.ofText? s = none ∧ Json.parse s = none := by
  constructor
  · rw [HeldValue.ofText?, written, Option.bind_eq_bind, Option.bind_some,
      ← Option.not_isSome_iff_eq_none, HeldValue.isSome_hold?, unsound]
    exact Bool.false_ne_true
  · simp [Json.parse, written, unsound]

/-- A text that spells a JSON value, with containers nested at most 127 deep and finite numbers. If
every literal stands for a text and no object repeats a name, the text is read as the same record
straight and through the value, if as any, and so is a list of entries. If a literal does not stand
for a text, the text is not read through a value at all. -/
theorem readers_agree_of_namesOnce {s : String} {j : Json} (spelled : Json.IsSpelled j s)
    (nested : j.depth ≤ 127) (finite : j.hasFiniteNumbers = true) :
    (j.hasTexts = true → j.namesOnce = true → ∃ v, HeldValue.ofText? s = some v ∧
      IngestRecord.ofText? s = RecordSource.record? v ∧
      IngestRecord.ofText? s = (Json.parse s).bind IngestRecord.ofJson? ∧
      RecentIngest.listOfText? s = RecordSource.list? RecordSource.recentIngest? v ∧
      RecentIngest.listOfText? s = (Json.parse s).bind RecentIngest.listOfJson?) ∧
    (¬j.hasTexts = true → HeldValue.ofText? s = none ∧ Json.parse s = none) := by
  have written := Json.read_eq_some_iff.mpr spelled
  have holds : HeldValue.ofText? s = HeldValue.hold? Json.depthLimit j := by
    rw [HeldValue.ofText?, written]
    rfl
  constructor
  · intro texts once
    have sound := (Json.isSound_iff Json.depthLimit j).mpr ⟨nested, finite, texts⟩
    obtain ⟨v, held⟩ := Option.isSome_iff_exists.mp ((HeldValue.isSome_hold? _ j).trans sound)
    have whole : Json.parse s = some j := by
      simp only [Json.parse, written, sound, if_true, Json.lastWins_of_namesOnce j once]
    obtain ⟨record, list⟩ := readers_agree_of_hold? written held once
    refine ⟨v, holds.trans held, record, ?_, list, ?_⟩
    · rw [whole, IngestRecord.ofText?, written]
      rfl
    · rw [whole, RecentIngest.listOfText?, written]
      rfl
  · intro unpaired
    refine unread_of_unsound written (Bool.eq_false_iff.mpr fun sound => ?_)
    exact unpaired ((Json.isSound_iff _ j).mp sound).2.2

/-- A record with its members in no order, structures as arrays, a version that is a number and a
member that is no field. -/
def looseMembers : List (String × Json) :=
  [("more", .ofMembers [("z", .bool true), ("a", .ofNat 1)]), ("events", .array []),
    ("environment", .ofText "production"), ("createdDate", .ofText "2026-10-14T09:00:00Z"),
    ("status", .ofId "succeeded"), ("bag", .array [.array [.ofText "b1", .ofNat 3]]),
    ("space", .array [.ofText "digitised"]), ("id", .ofText "a")]

def looseRecord : IngestRecord where
  id := ⟨"a"⟩
  space := "digitised"
  externalIdentifier := "b1"
  version := some "3"
  status := .succeeded
  createdDate := "2026-10-14T09:00:00Z"
  environment := .production

theorem settled_looseMembers : Json.IsSettled Json.depthLimit (.ofMembers looseMembers) := by
  have numbers (depth : Nat) : Json.IsSettled depth (.ofNat 1) ∧ Json.IsSettled depth (.ofNat 3) :=
    ⟨Json.settled_ofNat depth (by decide), Json.settled_ofNat depth (by decide)⟩
  have more : Json.IsSettled 126 (.ofMembers [("z", .bool true), ("a", .ofNat 1)]) :=
    Json.settled_ofMembers (by decide) (by simp [numbers, Json.settled_bool])
  have bag : Json.IsSettled 126 (.array [.array [.ofText "b1", .ofNat 3]]) :=
    Json.settled_array (by simp [Json.settled_array, Json.settled_ofText, numbers])
  refine Json.settled_ofMembers (by decide) ?_
  simp [looseMembers, more, bag, Json.settled_ofText, Json.settled_ofId, Json.settled_array]

theorem ofJson?_looseMembers :
    IngestRecord.ofJson? (.ofMembers looseMembers) = some looseRecord := by
  have fields := Json.fields_ofMembers IngestRecord.fieldNames
    (show (looseMembers.map Prod.fst).Nodup by decide)
  refine Json.bind_of_some fields ?_
  simp [looseMembers, List.lookup_cons, Json.text?_ofText, Json.idField?_ofId, Json.optional,
    Json.withDefault]
  rfl

theorem looseMembers_read_alike :
    let j := Json.ofMembers looseMembers
    Json.IsSpelled j j.compact ∧ j.depth ≤ 127 ∧ j.hasFiniteNumbers = true ∧ j.hasTexts = true ∧
      j.namesOnce = true ∧ (Json.parse j.compact).bind IngestRecord.ofJson? = some looseRecord := by
  intro j
  obtain ⟨read, -⟩ := Json.read_and_parse_compact settled_looseMembers
  obtain ⟨nested, finite, texts⟩ := (Json.isSound_iff _ j).mp settled_looseMembers.sound
  have spelled := Json.read_eq_some_iff.mp read
  have once : j.namesOnce = true := by decide +kernel
  obtain ⟨v, -, -, same, -⟩ := (readers_agree_of_namesOnce spelled nested finite).1 texts once
  refine ⟨spelled, nested, finite, texts, once, ?_⟩
  rw [← same, IngestRecord.ofText?, read]
  exact ofJson?_looseMembers

/-- A record with a member that nothing reads, whose literal is one half of a surrogate pair. -/
def unpairedText : String :=
  "\x7b\"id\":\"a\",\"space\":[\"digitised\"],\"bag\":[[\"b1\",3]],\"status\":[\"succeeded\"]," ++
    "\"createdDate\":\"2026-10-14T09:00:00Z\",\"environment\":\"production\",\"more\":\"\\ud800\"\x7d"

theorem unpaired_read_straight_only :
    (∃ j, Json.IsSpelled j unpairedText ∧ j.depth ≤ 127 ∧ j.hasFiniteNumbers = true ∧
      j.namesOnce = true) ∧
      IngestRecord.ofText? unpairedText = some looseRecord ∧
      HeldValue.ofText? unpairedText = none ∧ Json.parse unpairedText = none := by
  -- the text is long, so it is read once
  have parts : (Json.read unpairedText).any (fun j =>
      decide (j.depth ≤ 127) && j.hasFiniteNumbers && j.namesOnce &&
        decide (IngestRecord.ofJson? j = some looseRecord) && !j.isSound Json.depthLimit) = true := by
    decide +kernel
  obtain ⟨j, read, parts⟩ := (Option.any_eq_true _ _).mp parts
  simp only [Bool.and_eq_true, decide_eq_true_eq, Bool.not_eq_true'] at parts
  obtain ⟨⟨⟨⟨nested, finite⟩, once⟩, record⟩, unsound⟩ := parts
  refine ⟨⟨j, Json.read_eq_some_iff.mp read, nested, finite, once⟩, ?_,
    unread_of_unsound read unsound⟩
  rw [IngestRecord.ofText?, read]
  exact record

end IngestViewer
