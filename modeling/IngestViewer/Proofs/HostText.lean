import IngestViewer.Host

namespace IngestViewer.Host

/-- A character that a host can have when it is written. -/
def IsWritten (c : Char) : Prop := isForbidden c = false ∨ c = ':' ∨ c = '[' ∨ c = ']'

theorem isWritten_digit : ∀ d < 16, IsWritten (Nat.digitChar d) := by
  unfold IsWritten
  decide

theorem isWritten_of_mem_toDigits {base n : Nat} (least : 2 ≤ base) (most : base ≤ 16) :
    ∀ c ∈ Nat.toDigits base n, IsWritten c := by
  induction n using Nat.strongRecOn with
  | ind n ih =>
    intro c inside
    by_cases small : n < base
    · rw [Nat.toDigits_of_lt_base small, List.mem_singleton] at inside
      exact inside ▸ isWritten_digit n (by omega)
    · have shorter : n / base < n := Nat.div_lt_self (by omega) (by omega)
      have digit : n % base < base := Nat.mod_lt n (by omega)
      rw [Nat.toDigits_of_base_le (by omega) (by omega), List.mem_append] at inside
      obtain front | last := inside
      · exact ih _ shorter c front
      · exact List.mem_singleton.mp last ▸ isWritten_digit _ (by omega)

theorem isWritten_point : IsWritten '.' := .inl (by decide)

theorem isWritten_ipv4Text (n : Nat) : ∀ c ∈ ipv4Text n, IsWritten c := by
  intro c inside
  have digits (k : Nat) := @isWritten_of_mem_toDigits 10 k (by omega) (by omega) c
  simp only [ipv4Text, List.mem_append, List.mem_cons, or_assoc] at inside
  obtain third | rfl | second | rfl | first | rfl | last := inside
  · exact digits _ third
  · exact isWritten_point
  · exact digits _ second
  · exact isWritten_point
  · exact digits _ first
  · exact isWritten_point
  · exact digits _ last

theorem isWritten_hexPieces (ns : List Nat) : ∀ c ∈ hexPieces ns, IsWritten c := by
  intro c inside
  induction ns with
  | nil => cases inside
  | cons n ns ih =>
    have digits := @isWritten_of_mem_toDigits 16 n (by omega) (by omega) c
    cases ns with
    | nil => exact digits (by simpa [hexPieces, List.intercalate] using inside)
    | cons m ns =>
      have pieces : hexPieces (n :: m :: ns) = Nat.toDigits 16 n ++ ':' :: hexPieces (m :: ns) := by
        simp [hexPieces, List.intercalate]
      rw [pieces, List.mem_append, List.mem_cons] at inside
      obtain first | rfl | rest := inside
      · exact digits first
      · exact .inr (.inl rfl)
      · exact ih rest

theorem isWritten_ipv6Text (ns : List Nat) : ∀ c ∈ ipv6Text ns, IsWritten c := by
  intro c inside
  unfold ipv6Text at inside
  dsimp only at inside
  split at inside
  · exact isWritten_hexPieces _ c inside
  · simp only [List.mem_append, List.mem_cons, List.not_mem_nil, or_false, or_self] at inside
    obtain (front | rfl) | back := inside
    · exact isWritten_hexPieces _ c front
    · exact .inr (.inl rfl)
    · exact isWritten_hexPieces _ c back

theorem isWritten_of_domain? {cs host : List Char} (h : domain? cs = some host) :
    ∀ c ∈ host, IsWritten c := by
  intro c inside
  obtain ⟨-, allowed⟩ := Option.filter_eq_some_iff.mp h
  have none : ¬∃ x ∈ host, isForbiddenInDomain x = true := by simpa using allowed
  have plain : isForbiddenInDomain c = false := by
    cases forbidden : isForbiddenInDomain c with
    | false => rfl
    | true => exact absurd ⟨c, inside, forbidden⟩ none
  simp only [isForbiddenInDomain, Bool.or_eq_false_iff] at plain
  exact .inl plain.1.1.1

/-- A host that has been read is not empty and has no character that would end it. -/
theorem isWritten_of_ofSpecial {cs host : List Char} (h : ofSpecial cs = .ok host) :
    host ≠ [] ∧ ∀ c ∈ host, IsWritten c := by
  unfold ofSpecial at h
  split at h
  · cases h
  · split at h
    · split at h
      next pieces _ =>
        cases h
        refine ⟨by simp, fun c inside => ?_⟩
        simp only [List.cons_append, List.mem_cons, List.mem_append, List.not_mem_nil, or_false]
          at inside
        obtain rfl | address | rfl := inside
        · exact .inr (.inr (.inl rfl))
        · exact isWritten_ipv6Text _ c address
        · exact .inr (.inr (.inr rfl))
      · cases h
    · cases h
  · split at h
    · cases h
    · cases h
    next domain something named =>
      split at h
      · split at h
        next n _ =>
          cases h
          exact ⟨by simp [ipv4Text], isWritten_ipv4Text n⟩
        · cases h
      · cases h
        exact ⟨something, isWritten_of_domain? named⟩

end IngestViewer.Host
