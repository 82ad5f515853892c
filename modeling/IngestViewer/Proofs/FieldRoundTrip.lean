import IngestViewer.IngestRecordJson
import IngestViewer.Proofs.SettledJson

namespace IngestViewer.Json

/-- A step of reading that yields a value hands it on. -/
theorem bind_of_some {α β : Type} {x : Option α} {f : α → Option β} {a : α} {b : β}
    (first : x = some a) (next : f a = some b) : (x >>= f) = some b :=
  Option.bind_eq_some_iff.mpr ⟨a, first, next⟩

/-- A field that has to be there is taken first and read then. -/
theorem exists_of_required {α β γ : Type} {x : Option α} {read : α → Option β}
    {f : β → Option γ} {c : γ} (h : (x >>= fun a => read a >>= f) = some c) :
    ∃ b, x.bind read = some b ∧ f b = some c := by
  obtain ⟨a, found, h⟩ := Option.bind_eq_some_iff.mp h
  obtain ⟨b, value, rest⟩ := Option.bind_eq_some_iff.mp h
  exact ⟨b, Option.bind_eq_some_iff.mpr ⟨a, found, value⟩, rest⟩

theorem lookup_optionalMember {α : Type} (name key : String) (f : α → Json) (a : Option α) :
    (optionalMember name f a).lookup key = if key = name then a.map f else none := by
  cases a with
  | none => simp [optionalMember]
  | some a =>
    by_cases h : key = name
    · simp [optionalMember, h]
    · simp [optionalMember, List.lookup_cons, beq_eq_false_iff_ne.mpr h, h]

theorem names_optionalMember {α : Type} (name : String) (f : α → Json) (a : Option α) :
    ((optionalMember name f a).map Prod.fst).Sublist [name] := by
  cases a <;> simp [optionalMember]

theorem settled_of_mem_optionalMember {α : Type} {name : String} {f : α → Json} {depth : Nat}
    (settled : ∀ a, IsSettled depth (f a)) {a : Option α} :
    ∀ m ∈ optionalMember name f a, IsSettled depth m.2 := by
  intro m h
  obtain ⟨b, -, rfl⟩ : ∃ b, b ∈ a ∧ (name, f b) = m := by
    simpa [optionalMember] using h
  exact settled b

/-- A field that is left out if its value is missing is read back. -/
theorem optional_of_eq_map {α : Type} {read : Json → Option α} {f : α → Json}
    (inverse : ∀ a, read (f a) = some a) (blank : read null = none) {a : Option α}
    {field : Option Json} (written : field = a.map f) : optional read field = some a := by
  subst written
  cases a with
  | none => rfl
  | some a =>
    have present : f a ≠ null := by
      intro h
      have := inverse a
      rw [h, blank] at this
      cases this
    have read_written := inverse a
    rw [Option.map_some]
    unfold optional
    split
    next h => cases h
    next h => exact absurd (Option.some.inj h) present
    next h =>
      rw [← Option.some.inj h, read_written]
      rfl

theorem withDefault_of_eq_some {α : Type} {read : Json → Option α} {default a : α} {j : Json}
    (inverse : read j = some a) {field : Option Json} (written : field = some j) :
    withDefault read default field = some a := by
  subst written
  exact inverse

theorem mapM_map {α : Type} {read : Json → Option α} {f : α → Json} {as : List α}
    (inverse : ∀ a ∈ as, read (f a) = some a) : (as.map f).mapM read = some as := by
  induction as with
  | nil => rfl
  | cons a as ih =>
    have tail := ih fun b hb => inverse b (List.mem_cons_of_mem a hb)
    simp [List.mapM_cons, inverse a (by simp), tail]

theorem exists_of_mem_mapM {α : Type} {read : Json → Option α} {xs : List Json} {as : List α}
    (h : xs.mapM read = some as) {a : α} (ha : a ∈ as) : ∃ x ∈ xs, read x = some a := by
  induction xs generalizing as with
  | nil =>
    cases Option.some.inj h
    cases ha
  | cons x xs ih =>
    simp only [List.mapM_cons, Option.bind_eq_bind, Option.bind_eq_some_iff] at h
    obtain ⟨b, first, bs, others, h⟩ := h
    cases Option.some.inj h
    rcases List.mem_cons.mp ha with rfl | ha
    · exact ⟨x, by simp, first⟩
    · obtain ⟨y, hy, read⟩ := ih others ha
      exact ⟨y, by simp [hy], read⟩

theorem text?_ofText (s : String) : text? (ofText s) = some s := rfl

theorem bool?_bool (b : Bool) : bool? (bool b) = some b := rfl

theorem settled_ofId (depth : Nat) (s : String) : IsSettled (depth + 1) (ofId s) :=
  settled_ofMembers (by simp) (by simp [settled_ofText])

theorem idField?_ofId (s : String) : (ofId s).idField? = some s := by
  simp [ofId, idField?, fields_ofMembers, text?_ofText]

theorem count?_ofNat (n : UInt32) : count? (ofNat n.toNat) = some n := by
  have := n.toNat_lt
  have small : (n.toNat : Int) < 0x100000000 := by omega
  simp [count?, ofNat, Number.integer?, small]

end IngestViewer.Json
