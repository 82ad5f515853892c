import IngestViewer.IngestRecord

namespace IngestViewer

/-- Whether a text comes no later than another one in the order of code points. -/
def NotBehind : List Char → List Char → Prop
  | [], _ => True
  | _ :: _, [] => False
  | c :: cs, d :: ds => c.toNat < d.toNat ∨ c = d ∧ NotBehind cs ds

theorem notBehind_tail {c : Char} {cs cs' : List Char} (le : NotBehind (c :: cs) (c :: cs')) : NotBehind cs cs' := by
  rcases le with less | ⟨-, others⟩
  · exact absurd less (Nat.lt_irrefl _)
  · exact others

theorem notBehind_refl (cs : List Char) : NotBehind cs cs := by
  induction cs with
  | nil => trivial
  | cons c cs ih => exact .inr ⟨rfl, ih⟩

theorem NotBehind.trans {cs ds es : List Char} (h : NotBehind cs ds) (h' : NotBehind ds es) :
    NotBehind cs es := by
  induction cs generalizing ds es with
  | nil => trivial
  | cons c cs ih =>
    match ds, es, h, h' with
    | d :: ds, e :: es, h, h' =>
      rcases h with less | ⟨rfl, others⟩
      · rcases h' with less' | ⟨rfl, -⟩
        · exact .inl (Nat.lt_trans less less')
        · exact .inl less
      · rcases h' with less' | ⟨rfl, others'⟩
        · exact .inl less'
        · exact .inr ⟨rfl, ih others others'⟩

theorem NotBehind.antisymm {cs ds : List Char} (h : NotBehind cs ds) (h' : NotBehind ds cs) :
    cs = ds := by
  induction cs generalizing ds with
  | nil =>
    cases ds with
    | nil => rfl
    | cons d ds => exact h'.elim
  | cons c cs ih =>
    match ds, h, h' with
    | d :: ds, h, h' =>
      rcases h with less | ⟨rfl, others⟩
      · rcases h' with less' | ⟨rfl, -⟩ <;> omega
      · rcases h' with less' | ⟨-, others'⟩
        · omega
        · rw [ih others others']

theorem notBehind_of_lt {cs ds : List Char} (h : List.Lex (· < ·) cs ds) : NotBehind cs ds := by
  induction h with
  | nil => trivial
  | rel less => exact .inl less
  | cons _ ih => exact .inr ⟨rfl, ih⟩

theorem notBehind_of_not_lt {cs ds : List Char} (h : ¬List.Lex (· < ·) ds cs) :
    NotBehind cs ds := by
  induction cs generalizing ds with
  | nil => trivial
  | cons c cs ih =>
    cases ds with
    | nil => exact (h .nil).elim
    | cons d ds =>
      rcases Nat.lt_trichotomy c.toNat d.toNat with less | same | more
      · exact .inl less
      · have same : c = d := Char.toNat_inj.mp same
        subst same
        exact .inr ⟨rfl, ih fun less => h (.cons less)⟩
      · exact (h (.rel more)).elim

theorem greatest?_eq_none {ss : List String} : greatest? ss = none ↔ ss = [] := by
  cases ss with
  | nil => simp [greatest?]
  | cons s ss =>
    rw [greatest?]
    split <;> simp

theorem greatest?_eq_some {ss : List String} {m : String} (h : greatest? ss = some m) :
    m ∈ ss ∧ ∀ s ∈ ss, NotBehind s.toList m.toList := by
  induction ss generalizing m with
  | nil => cases h
  | cons s ss ih =>
    rw [greatest?] at h
    split at h
    next t found =>
      obtain ⟨mem, least⟩ := ih found
      cases h
      split
      next less => exact ⟨.tail s mem, List.forall_mem_cons.mpr ⟨notBehind_of_lt less, least⟩⟩
      next more =>
        have behind := notBehind_of_not_lt more
        refine ⟨.head ss, List.forall_mem_cons.mpr ⟨notBehind_refl _, fun u hu => ?_⟩⟩
        exact (least u hu).trans behind
    next none =>
      cases h
      have empty := greatest?_eq_none.mp none
      subst empty
      simp [notBehind_refl]

end IngestViewer
