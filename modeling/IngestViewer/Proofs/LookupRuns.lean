import IngestViewer.Proofs.SingleFlight

namespace IngestViewer.SharedLookups

def afterSteps (s : SharedLookups) (steps : List LookupStep) : SharedLookups :=
  steps.foldl (fun s a => (s.take a).2) s

def AllowsAll (s : SharedLookups) : List LookupStep → Prop
  | [] => True
  | a :: steps => s.Allows a ∧ (s.take a).2.AllowsAll steps

theorem isWaiting_iff {s : SharedLookups} {name : String} :
    (∃ n, (name, .waiting n) ∈ s.callers) ↔
      s.callers.any (fun c => c.1 == name && c.2 matches .waiting _) = true := by
  rw [List.any_eq_true]
  constructor
  · rintro ⟨n, waits⟩
    exact ⟨_, waits, by simp⟩
  · rintro ⟨⟨other, c⟩, inside, same⟩
    cases c with
    | fresh key => simp at same
    | waiting n =>
      simp only [Bool.and_true, beq_iff_eq] at same
      exact ⟨n, same ▸ inside⟩

instance decidableAllows (s : SharedLookups) : (a : LookupStep) → Decidable (s.Allows a)
  | .call name _ => inferInstanceAs (Decidable (name ∉ s.callers.map (·.1)))
  | .answer n _ order =>
    inferInstanceAs (Decidable (s.isLive n = true ∧ order ≠ [] ∧ order.Nodup ∧ order ⊆ s.waiters n))
  | .poll _ | .drop _ => decidable_of_iff _ isWaiting_iff.symm

instance decidableAllowsAll (s : SharedLookups) :
    (steps : List LookupStep) → Decidable (s.AllowsAll steps)
  | [] => inferInstanceAs (Decidable True)
  | a :: steps =>
    have := decidableAllowsAll (s.take a).2 steps
    inferInstanceAs (Decidable (s.Allows a ∧ (s.take a).2.AllowsAll steps))

/-- What is seen of those steps that are picked out. -/
def seen (about : SharedLookups → LookupStep → Bool) (s : SharedLookups) :
    List LookupStep → List Notice
  | [] => []
  | a :: steps =>
    (if about s a then (s.take a).1.notices else []) ++ (s.take a).2.seen about steps

def seenAll (s : SharedLookups) (steps : List LookupStep) : List Notice :=
  s.seen (fun _ _ => true) steps

theorem afterSteps_append (s : SharedLookups) (steps more : List LookupStep) :
    s.afterSteps (steps ++ more) = (s.afterSteps steps).afterSteps more :=
  List.foldl_append

theorem allowsAll_append {s : SharedLookups} {steps more : List LookupStep} :
    s.AllowsAll (steps ++ more) ↔ s.AllowsAll steps ∧ (s.afterSteps steps).AllowsAll more := by
  induction steps generalizing s with
  | nil => simp [AllowsAll, afterSteps]
  | cons a steps ih =>
    rw [List.cons_append, AllowsAll, AllowsAll, ih, and_assoc]
    rfl

theorem seen_append (about : SharedLookups → LookupStep → Bool) (s : SharedLookups)
    (steps more : List LookupStep) :
    s.seen about (steps ++ more) = s.seen about steps ++ (s.afterSteps steps).seen about more := by
  induction steps generalizing s with
  | nil => rfl
  | cons a steps ih =>
    rw [List.cons_append, seen, seen, ih, List.append_assoc]
    rfl

theorem seen_subset (about : SharedLookups → LookupStep → Bool) (s : SharedLookups)
    (steps : List LookupStep) : s.seen about steps ⊆ s.seenAll steps := by
  induction steps generalizing s with
  | nil => exact List.Subset.refl _
  | cons a steps ih =>
    refine List.append_subset.mpr ⟨?_, ?_⟩
    · split
      · exact List.subset_append_left _ _
      · exact List.nil_subset _
    · exact List.Subset.trans (ih _) (List.subset_append_right _ _)

/-- A step at the end of a run: what has been before, what it makes seen, and the state after. -/
structure Ends (past : List LookupStep) (s : SharedLookups) (a : LookupStep) (report : StepReport)
    (t : SharedLookups) : Prop where
  run : AllowsAll {} (past ++ [a])
  before : afterSteps {} past = s
  sound : s.Sound
  allowed : s.Allows a
  reported : (s.take a).1 = report
  effect : s.Effect a report t
  after : afterSteps {} (past ++ [a]) = t
  grows : ∀ about, seen about {} (past ++ [a]) =
    seen about {} past ++ if about s a then report.notices else []

theorem sound_of_allowsAll {s : SharedLookups} (sound : s.Sound) {steps : List LookupStep}
    (allowed : s.AllowsAll steps) : (s.afterSteps steps).Sound := by
  induction steps generalizing s with
  | nil => exact sound
  | cons a steps ih => exact ih (sound_of_effect sound (effect_take sound allowed.1)) allowed.2

theorem ends_of_allowsAll {past : List LookupStep} {a : LookupStep}
    (allowed : AllowsAll {} (past ++ [a])) :
    Ends past (afterSteps {} past) a ((afterSteps {} past).take a).1
      (afterSteps {} (past ++ [a])) := by
  obtain ⟨first, now, -⟩ := allowsAll_append.mp allowed
  have sound := sound_of_allowsAll sound_start first
  refine ⟨allowed, rfl, sound, now, rfl, ?_, rfl, fun about => ?_⟩
  · rw [afterSteps_append]
    exact effect_take sound now
  · rw [seen_append, seen, seen, List.append_nil]

/-- Induction over a run: what each step preserves holds at its end. -/
theorem invariant_of_run {P : List LookupStep → SharedLookups → Prop} (start : P [] {})
    (next : ∀ {past s a report t}, Ends past s a report t → P past s → P (past ++ [a]) t)
    {steps : List LookupStep} (allowed : AllowsAll {} steps) : P steps (afterSteps {} steps) := by
  have more : ∀ past rest, P past (afterSteps {} past) → AllowsAll {} (past ++ rest) →
      P (past ++ rest) (afterSteps {} (past ++ rest)) := by
    intro past rest
    induction rest generalizing past with
    | nil =>
      intro now _
      rwa [List.append_nil]
    | cons a rest ih =>
      intro now allowed
      have cut : past ++ a :: rest = past ++ [a] ++ rest := by simp
      rw [cut] at allowed ⊢
      exact ih _ (next (ends_of_allowsAll (allowsAll_append.mp allowed).1) now) allowed
  exact more [] steps start allowed

theorem eq_of_waiting {s : SharedLookups} (sound : s.Sound) {name : String} {m n : Nat}
    (first : (name, .waiting m) ∈ s.callers) (second : (name, .waiting n) ∈ s.callers) : m = n := by
  have found := lookup_of_mem_of_nodup sound.named first
  rw [lookup_of_mem_of_nodup sound.named second] at found
  cases found
  rfl

theorem getElem?_concat_eq_some {α : Type} {l : List α} {a b : α} {n : Nat} :
    (l ++ [b])[n]? = some a ↔ l[n]? = some a ∨ n = l.length ∧ b = a := by
  rcases Nat.lt_trichotomy n l.length with before | rfl | behind
  · simp [List.getElem?_append_left before, Nat.ne_of_lt before]
  · simp
  · rw [List.getElem?_append_right (Nat.le_of_lt behind)]
    have apart : n ≠ l.length := Nat.ne_of_gt behind
    have past : n - l.length ≠ 0 := by omega
    simp [Nat.le_of_lt behind, apart, past]

theorem fetched_of_effect {s t : SharedLookups} {a : LookupStep} {report : StepReport}
    (h : s.Effect a report t) (n : Nat) (key : LookupKey) :
    (∃ stage, t.flights[n]? = some ⟨key, stage⟩) ↔
      (∃ stage, s.flights[n]? = some ⟨key, stage⟩) ∨ .fetched n key ∈ report.notices := by
  cases h with
  | launched =>
    simp only [getElem?_concat_eq_some, exists_or, Flight.mk.injEq]
    simp [@eq_comm _ key]
  | @answered m k r order asked _ =>
    by_cases same : n = m
    · subst same
      have landed := flights_land_self asked r
      simp [landed, asked, eq_comm]
    · simp [flights_land_other same k r]
  | joined => simp
  | kept => simp
  | told => simp [forget]
  | @left name m k _ _ =>
    have other : .fetched n key ∉
        (if (s.forget name).isHeld m then [] else [Notice.done k.id]) := by
      split <;> simp
    simp only [other, or_false]
    exact Iff.rfl
  | leftLanded => simp [forget]

theorem fetched_iff {steps : List LookupStep} (allowed : AllowsAll {} steps) (n : Nat)
    (key : LookupKey) : .fetched n key ∈ seenAll {} steps ↔
      ∃ stage, (afterSteps {} steps).flights[n]? = some ⟨key, stage⟩ := by
  refine invariant_of_run (P := fun past s => .fetched n key ∈ seenAll {} past ↔
    ∃ stage, s.flights[n]? = some ⟨key, stage⟩) (by simp [seenAll, seen]) ?_ allowed
  intro past s a report t ends ih
  rw [fetched_of_effect ends.effect, ← ih, seenAll, ends.grows]
  simp [seenAll]

end IngestViewer.SharedLookups
