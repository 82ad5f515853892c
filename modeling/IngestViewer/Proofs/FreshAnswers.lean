import IngestViewer.Proofs.LookupRuns

namespace IngestViewer.SharedLookups

theorem landed_of_effect {s t : SharedLookups} {a : LookupStep} {report : StepReport}
    (h : s.Effect a report t) (n : Nat) (r : LookupResult) :
    (∃ key, t.flights[n]? = some ⟨key, .landed r⟩) ↔
      (∃ key, s.flights[n]? = some ⟨key, .landed r⟩) ∨ ∃ order, a = .answer n r order := by
  cases h with
  | launched => simp [getElem?_concat_eq_some]
  | @answered m key r' order asked _ =>
    by_cases same : n = m
    · subst same
      have landed := flights_land_self asked r'
      simp [landed, asked, eq_comm]
    · simp [flights_land_other same key r', Ne.symm same]
  | joined => simp
  | kept => simp
  | told => simp [forget]
  | left => simp [forget]
  | leftLanded => simp [forget]

/-- The answers that have been given are those that flights have landed with. -/
theorem answered_iff_landed {steps : List LookupStep} (allowed : AllowsAll {} steps) (n : Nat)
    (r : LookupResult) : (∃ order, .answer n r order ∈ steps) ↔
      ∃ key, (afterSteps {} steps).flights[n]? = some ⟨key, .landed r⟩ := by
  refine invariant_of_run (P := fun past s => (∃ order, .answer n r order ∈ past) ↔
    ∃ key, s.flights[n]? = some ⟨key, .landed r⟩) (by simp) ?_ allowed
  intro past s a report t ends ih
  rw [landed_of_effect ends.effect, ← ih]
  simp only [List.mem_append, List.mem_singleton, exists_or, eq_comm]

theorem waiting_of_effect {s t : SharedLookups} {a : LookupStep} {report : StepReport}
    (h : s.Effect a report t) {name : String} {n : Nat} (waits : (name, .waiting n) ∈ t.callers) :
    (∃ key, a = .call name key) ∨
      (name, .waiting n) ∈ s.callers ∧ ∀ key, a ≠ .call name key := by
  cases h with
  | @joined other key _ new _ _ =>
    by_cases same : other = name
    · exact .inl ⟨key, by rw [same]⟩
    · exact .inr ⟨by simpa [Ne.symm same] using waits, by simp [same]⟩
  | @launched other key new _ =>
    by_cases same : other = name
    · exact .inl ⟨key, by rw [same]⟩
    · exact .inr ⟨by simpa [Ne.symm same] using waits, by simp [same]⟩
  | answered => exact .inr ⟨(List.mem_filter.mp waits).1, by simp⟩
  | kept => exact .inr ⟨waits, by simp⟩
  | told => exact .inr ⟨(List.mem_filter.mp waits).1, by simp⟩
  | left => exact .inr ⟨(List.mem_filter.mp waits).1, by simp⟩
  | leftLanded => exact .inr ⟨(List.mem_filter.mp waits).1, by simp⟩

/-- Where a caller that waits for a flight has come from: the last call under its name, which made
it wait for that flight. -/
def CameFor (past : List LookupStep) (name : String) (n : Nat) : Prop :=
  ∃ before key since, past = before ++ .call name key :: since ∧ (∀ k, .call name k ∉ since) ∧
    (name, .waiting n) ∈ (afterSteps {} (before ++ [.call name key])).callers

theorem CameFor.later {past : List LookupStep} {name : String} {n : Nat} (h : CameFor past name n)
    {a : LookupStep} (other : ∀ key, a ≠ .call name key) : CameFor (past ++ [a]) name n := by
  obtain ⟨before, key, since, rfl, last, waits⟩ := h
  refine ⟨before, key, since ++ [a], by simp, fun k => ?_, waits⟩
  rw [List.mem_append, List.mem_singleton, not_or]
  exact ⟨last k, (other k).symm⟩

theorem cameFor_of_waiting {steps : List LookupStep} (allowed : AllowsAll {} steps) {name : String}
    {n : Nat} (waits : (name, .waiting n) ∈ (afterSteps {} steps).callers) : CameFor steps name n := by
  refine invariant_of_run (P := fun past s => ∀ name n, (name, .waiting n) ∈ s.callers →
    CameFor past name n) ?_ ?_ allowed name n waits
  · rintro name n ⟨⟩
  intro past s a report t ends ih name n waits
  rcases waiting_of_effect ends.effect waits with ⟨key, rfl⟩ | ⟨old, other⟩
  · exact ⟨past, key, [], rfl, by simp, by rw [ends.after]; exact waits⟩
  · exact (ih name n old).later other

/-- What a call gets that comes after some steps: a flight of its key that is yet to be answered.
Where the key has no live flight this is a new one, even if the registry still names another. -/
structure Arrives (before : List LookupStep) (name : String) (key : LookupKey) (n : Nat) : Prop where
  waits : (name, .waiting n) ∈ (afterSteps {} (before ++ [.call name key])).callers
  live : (afterSteps {} (before ++ [.call name key])).IsLiveFor n key
  fetched : .fetched n key ∈ seenAll {} (before ++ [.call name key])
  unanswered : ∀ r order, .answer n r order ∉ before
  fresh : (∀ m, ¬ (afterSteps {} before).IsLiveFor m key) →
    ((afterSteps {} before).take (.call name key)).1 =
      ⟨[(name, .pending)], [.started key.id, .fetched n key]⟩ ∧
    ∀ m k, .fetched m k ∈ seenAll {} before → m < n
  apart : ∀ m, ¬ (afterSteps {} before).IsLiveFor m key → .fetched m key ∈ seenAll {} before → m ≠ n

/-- A call waits for a live flight of its key: one that was live before, or the next one. -/
theorem waits_of_call {s t : SharedLookups} {name : String} {key : LookupKey} {report : StepReport}
    (h : s.Effect (.call name key) report t) :
    ∃ n, (name, .waiting n) ∈ t.callers ∧ t.IsLiveFor n key ∧
      (s.IsLiveFor n key ∨ n = s.flights.length ∧
        report = ⟨[(name, .pending)], [.started key.id, .fetched n key]⟩) := by
  cases h with
  | @joined _ _ n new asked held =>
    have waits : (name, .waiting n) ∈ (name, .waiting n) :: s.callers := List.mem_cons_self
    exact ⟨n, waits, ⟨asked, isHeld_iff.mpr ⟨name, waits⟩⟩, .inl ⟨asked, held⟩⟩
  | launched new alone =>
    have waits : (name, .waiting s.flights.length) ∈
        (name, .waiting s.flights.length) :: s.callers := List.mem_cons_self
    exact ⟨s.flights.length, waits, ⟨by simp, isHeld_iff.mpr ⟨name, waits⟩⟩, .inr ⟨rfl, rfl⟩⟩

theorem arrives_of_ends {before : List LookupStep} {s t : SharedLookups} {name : String}
    {key : LookupKey} {report : StepReport} (h : Ends before s (.call name key) report t) :
    ∃ n, Arrives before name key n := by
  have first := (allowsAll_append.mp h.run).1
  have bound : ∀ m k, .fetched m k ∈ seenAll {} before → m < s.flights.length := by
    intro m k made
    obtain ⟨stage, there⟩ := (fetched_iff first m k).mp made
    rw [h.before] at there
    exact (List.getElem?_eq_some_iff.mp there).1
  obtain ⟨n, waits, live, was⟩ := waits_of_call h.effect
  have fetched : .fetched n key ∈ seenAll {} (before ++ [.call name key]) :=
    (fetched_iff h.run n key).mpr ⟨.asked, by rw [h.after]; exact live.1⟩
  have unanswered : ∀ r order, .answer n r order ∉ before := by
    intro r order given
    obtain ⟨k, landed⟩ := (answered_iff_landed first n r).mp ⟨order, given⟩
    rw [h.before] at landed
    -- neither a live flight nor one to come has landed
    rcases was with old | ⟨rfl, -⟩
    · rw [old.1] at landed
      cases landed
    · simp at landed
  refine ⟨n, ?_, ?_, fetched, unanswered, ?_, ?_⟩
  · rw [h.after]
    exact waits
  · rw [h.after]
    exact live
  · intro nobody
    rw [h.before] at nobody ⊢
    rcases was with old | ⟨rfl, report⟩
    · exact absurd old (nobody n)
    · exact ⟨h.reported.trans report, bound⟩
  · rintro m dead made rfl
    rw [h.before] at dead
    rcases was with old | ⟨rfl, -⟩
    · exact dead old
    · exact Nat.lt_irrefl _ (bound _ key made)

/-- Who is told an answer waits for it: it is given at the step, or has been given before. -/
theorem told_of_effect {s t : SharedLookups} {a : LookupStep} {report : StepReport}
    (allowed : s.Allows a) (h : s.Effect a report t) {name : String} {r : LookupResult}
    (told : (name, .ended r) ∈ report.polled) :
    ∃ n, (name, .waiting n) ∈ s.callers ∧
      ((∃ order, a = .answer n r order) ∨ ∃ key, s.flights[n]? = some ⟨key, .landed r⟩) := by
  cases h with
  | @answered n key _ order _ _ =>
    obtain ⟨other, inside, same⟩ := List.mem_map.mp told
    cases same
    exact ⟨n, mem_waiters.mp (allowed.2.2.2 inside), .inl ⟨order, rfl⟩⟩
  | @told _ n key _ waits landed =>
    cases List.mem_singleton.mp told
    exact ⟨n, waits, .inr ⟨key, landed⟩⟩
  | joined => simp at told
  | launched => simp at told
  | kept => simp at told
  | left => cases told
  | leftLanded => cases told

/-- What a caller is told is the answer that has been given, since the caller came, to the flight of
its key that it found live or started. -/
theorem answers_are_fresh :
    (∀ before name key, AllowsAll {} (before ++ [.call name key]) → ∃ n, Arrives before name key n) ∧
    ∀ past a name r, AllowsAll {} (past ++ [a]) →
      (name, .ended r) ∈ ((afterSteps {} past).take a).1.polled →
      ∃ before key since n order, past = before ++ .call name key :: since ∧
        (∀ k, .call name k ∉ since) ∧ Arrives before name key n ∧
        .answer n r order ∈ since ++ [a] ∧
        ∀ r' order', .answer n r' order' ∈ past ++ [a] → r' = r := by
  refine ⟨fun before name key allowed => arrives_of_ends (ends_of_allowsAll allowed), ?_⟩
  intro past a name r allowed told
  have ends := ends_of_allowsAll allowed
  have first := (allowsAll_append.mp allowed).1
  obtain ⟨n, waits, given⟩ := told_of_effect ends.allowed ends.effect told
  obtain ⟨before, key, since, split, last, came⟩ := cameFor_of_waiting first waits
  have called : AllowsAll {} (before ++ [.call name key]) := by
    have cut : past = before ++ [.call name key] ++ since := by simp [split]
    rw [cut] at first
    exact (allowsAll_append.mp first).1
  obtain ⟨m, arrives⟩ := arrives_of_ends (ends_of_allowsAll called)
  obtain rfl : m = n :=
    eq_of_waiting (sound_of_allowsAll sound_start called) arrives.waits came
  have answered := answered_iff_landed allowed m
  -- the answer is the one that the flight has landed with, and no step before the call gave it
  have there : ∃ order, .answer m r order ∈ past ++ [a] := by
    rcases given with ⟨order, rfl⟩ | landed
    · exact ⟨order, by simp⟩
    · obtain ⟨order, inside⟩ := (answered_iff_landed first m r).mpr landed
      exact ⟨order, List.mem_append_left _ inside⟩
  obtain ⟨order, inside⟩ := there
  refine ⟨before, key, since, m, order, split, last, arrives, ?_, ?_⟩
  · rw [split, List.append_assoc, List.cons_append] at inside
    rcases List.mem_append.mp inside with early | later
    · exact absurd early (arrives.unanswered r order)
    · rcases List.mem_cons.mp later with same | later
      · cases same
      · exact later
  · intro r' order' inside'
    obtain ⟨k, landed⟩ := (answered r).mp ⟨order, inside⟩
    obtain ⟨k', landed'⟩ := (answered r').mp ⟨order', inside'⟩
    rw [landed] at landed'
    cases landed'
    rfl

/-- The first caller lets go, and the registry still names its flight: the second caller of the key
starts a flight of its own, and is told what that one is answered. -/
theorem abandoned_flight_not_joined :
    let key : LookupKey := ⟨⟨"a"⟩, .auto⟩
    let r : LookupResult := .error ⟨⟨"a"⟩, .ingestNotFound⟩
    let left : List LookupStep := [.call "first" key, .drop "first"]
    let called : List LookupStep := left ++ [.call "second" key]
    let answer : LookupStep := .answer 1 r ["second"]
    (afterSteps {} left).registry = [(key, 0)] ∧ AllowsAll {} (called ++ [answer]) ∧
      (∃ n, Arrives left "second" key n ∧ n ≠ 0) ∧
      ∃ before k since n order, called = before ++ .call "second" k :: since ∧
        Arrives before "second" k n ∧ .answer n r order ∈ since ++ [answer] := by
  intro key r left called answer
  have allowed : AllowsAll {} (called ++ [answer]) := by decide
  have told : ("second", .ended r) ∈ ((afterSteps {} called).take answer).1.polled :=
    List.mem_singleton.mpr rfl
  have dead : ¬ (afterSteps {} left).IsLiveFor 0 key := fun live => Bool.noConfusion live.2
  obtain ⟨arrival, reception⟩ := answers_are_fresh
  obtain ⟨n, arrives⟩ := arrival left "second" key (allowsAll_append.mp allowed).1
  have apart := arrives.apart 0 dead (by decide)
  obtain ⟨before, k, since, m, order, split, -, came, given, -⟩ :=
    reception called answer "second" r allowed told
  exact ⟨rfl, allowed, ⟨n, arrives, apart.symm⟩, before, k, since, m, order, split, came, given⟩

theorem take_call_of_ready {s : SharedLookups} {name : String} {key : LookupKey} {n : Nat}
    (new : name ∉ s.callers.map (·.1)) (joined : s.joinable? key = some n) {k : LookupKey}
    {r : LookupResult} (ready : s.flights[n]? = some ⟨k, .answered r⟩) :
    s.take (.call name key) = (⟨[(name, .ended r)], [.done k.id]⟩, s.land n k r) := by
  have joined : joinable? { s with callers := (name, .fresh key) :: s.callers } key = some n := by
    rw [joinable?, isHeld_fresh]
    exact joined
  have gone : (s.land n k r).forget name = s.land n k r := forget_of_new new
  have left : (land { s with callers := (name, .waiting n) :: s.callers } n k r).forget name =
      (s.land n k r).forget name := by
    simp [forget, land, setStage]
  have polled : poll { s with callers := (name, .fresh key) :: s.callers } name =
      (.ended r, [.done k.id], s.land n k r) := by
    simp only [poll, List.lookup_cons_self, joined]
    rw [setCaller_of_front rfl new]
    simp only [look, ready, left, gone]
  simp [take, begin_of_new new, pollAll, polled]

/-- An answer that a flight has been handed is nowhere seen before somebody looks. If that is a
caller that comes just then, all is as if the caller had come first. -/
theorem take_call_of_answered {s : SharedLookups} (sound : s.Sound) {n : Nat} {key : LookupKey}
    (live : s.IsLiveFor n key) {name : String} (new : name ∉ s.callers.map (·.1))
    (r : LookupResult) :
    (s.answer n r).2.take (.call name key) =
      (s.take (.call name key)).2.take (.answer n r [name]) := by
  have joined := joinable_of_asked sound live.1 live.2
  have after := sound_joined sound new live.1 live.2
  have allowed : Allows { s with callers := (name, .waiting n) :: s.callers }
      (.answer n r [name]) := by
    refine ⟨isLive_iff.mpr ⟨⟨key, live.1⟩, ?_⟩, by simp, by simp, by simp [waiters]⟩
    exact isHeld_iff.mpr ⟨name, List.mem_cons_self⟩
  have answered : (s.answer n r).2 = s.setStage n (.answered r) := by
    rw [answer, if_pos (isLive_iff.mpr ⟨⟨key, live.1⟩, live.2⟩)]
  have ready : (s.setStage n (.answered r)).flights[n]? = some ⟨key, .answered r⟩ := by
    simp [setStage, live.1]
  have kept : s.callers.filter (·.1 ∉ [name]) = s.callers := by
    simpa [forget] using congrArg callers (forget_of_new new)
  have landed : (s.setStage n (.answered r)).land n key r =
      { land { s with callers := (name, .waiting n) :: s.callers } n key r with
        callers := ((name, .waiting n) :: s.callers).filter (·.1 ∉ [name]) } := by
    rw [List.filter_cons_of_neg (by simp), kept]
    simp [land, setStage, List.modify_modify_eq, Function.comp_def]
  rw [take_call_of_joinable new joined live.1, take_answer after.named live.1 r allowed, answered,
    take_call_of_ready (s := s.setStage n (.answered r)) new joined ready, landed]
  rfl

end IngestViewer.SharedLookups
