import IngestViewer.SharedLookups

namespace IngestViewer

/-- What happens to shared lookups: a new caller comes and is polled at once, a flight gets its
answer, which some of those who wait for it see when they are polled, a waiting caller is polled
again, or it lets go. -/
inductive LookupStep where
  | call (name : String) (key : LookupKey)
  | answer (flight : Nat) (result : LookupResult) (order : List String)
  | poll (name : String)
  | drop (name : String)

/-- What is seen of a step: what the callers that are polled learn, and what is told outside. -/
structure StepReport where
  polled : List (String × PollOutcome) := []
  notices : List Notice := []

namespace SharedLookups

def pollAll (s : SharedLookups) : List String → StepReport × SharedLookups
  | [] => ({}, s)
  | name :: names =>
    let (outcome, seen, s) := s.poll name
    let (report, s) := s.pollAll names
    (⟨(name, outcome) :: report.polled, seen ++ report.notices⟩, s)

def waiters (s : SharedLookups) (n : Nat) : List String :=
  (s.callers.filter (·.2 == .waiting n)).map (·.1)

def take (s : SharedLookups) : LookupStep → StepReport × SharedLookups
  | .call name key =>
    let (dropped, s) := s.begin name key
    let (report, s) := s.pollAll [name]
    ({ report with notices := dropped ++ report.notices }, s)
  | .answer n r order => (s.answer n r).2.pollAll order
  | .poll name => s.pollAll [name]
  | .drop name =>
    let (_, seen, s) := s.drop name
    ({ notices := seen }, s)

/-- Whether a step can happen: a new caller has a name of its own, an answer goes to a flight that
waits for one and is seen by some who wait for the flight, and only a caller that waits is polled
again or lets go. -/
def Allows (s : SharedLookups) : LookupStep → Prop
  | .call name _ => name ∉ s.callers.map (·.1)
  | .answer n _ order => s.isLive n = true ∧ order ≠ [] ∧ order.Nodup ∧ order ⊆ s.waiters n
  | .poll name | .drop name => ∃ n, (name, .waiting n) ∈ s.callers

/-- The runs from one state to another. -/
inductive Leads (s : SharedLookups) : SharedLookups → Prop where
  | here : Leads s s
  | step {t : SharedLookups} (a : LookupStep) : Leads s t → t.Allows a → Leads s (t.take a).2

def Reachable (s : SharedLookups) : Prop := Leads {} s

theorem isHeld_iff {s : SharedLookups} {n : Nat} :
    s.isHeld n = true ↔ ∃ name, (name, .waiting n) ∈ s.callers := by
  simp [isHeld]

theorem isLive_iff {s : SharedLookups} {n : Nat} :
    s.isLive n = true ↔ (∃ key, s.flights[n]? = some ⟨key, .asked⟩) ∧ s.isHeld n = true := by
  unfold isLive
  split
  next h => simp [h]
  next h =>
    constructor
    · intro hh
      cases hh
    · rintro ⟨⟨key, asked⟩, -⟩
      exact absurd asked (h key)

theorem lookup_of_mem_of_nodup {α β : Type} [BEq α] [LawfulBEq α] {l : List (α × β)} {a : α} {b : β}
    (nodup : (l.map (·.1)).Nodup) (h : (a, b) ∈ l) : l.lookup a = some b := by
  induction l with
  | nil => cases h
  | cons c l ih =>
    obtain ⟨fresh, nodup⟩ := List.nodup_cons.mp nodup
    rcases List.mem_cons.mp h with rfl | h
    · simp
    · have other : (a == c.1) = false := by
        refine beq_eq_false_iff_ne.mpr fun same => fresh ?_
        exact List.mem_map.mpr ⟨(a, b), h, same⟩
      rw [List.lookup_cons, other]
      exact ih nodup h

theorem mem_of_lookup {α β : Type} [BEq α] [LawfulBEq α] {l : List (α × β)} {a : α} {b : β}
    (h : l.lookup a = some b) : (a, b) ∈ l := by
  obtain ⟨before, behind, rfl, -⟩ := List.lookup_eq_some_iff.mp h
  simp

/-- What is found is still found when other members are taken away. -/
theorem lookup_filter {α β : Type} [BEq α] [LawfulBEq α] {l : List (α × β)} {a : α} {b : β}
    {p : α × β → Bool} (h : l.lookup a = some b) (kept : p (a, b) = true) :
    (l.filter p).lookup a = some b := by
  obtain ⟨before, behind, rfl, none⟩ := List.lookup_eq_some_iff.mp h
  refine List.lookup_eq_some_iff.mpr ⟨before.filter p, behind.filter p, by simp [kept], ?_⟩
  exact fun c hc => none c (List.mem_filter.mp hc).1

theorem lookup_of_new {s : SharedLookups} {name : String} (new : name ∉ s.callers.map (·.1)) :
    s.callers.lookup name = none := by
  refine List.lookup_eq_none_iff.mpr fun c hc => ?_
  have other : name ≠ c.1 := fun same => new (same ▸ List.mem_map_of_mem hc)
  simp [other]

theorem forget_of_new {s : SharedLookups} {name : String} (new : name ∉ s.callers.map (·.1)) :
    s.forget name = s := by
  have kept : s.callers.filter (·.1 ≠ name) = s.callers := by
    refine List.filter_eq_self.mpr fun c hc => ?_
    have other : c.1 ≠ name := fun same => new (List.mem_map.mpr ⟨c, hc, same⟩)
    simp [other]
  rw [forget, kept]

theorem begin_of_new {s : SharedLookups} {name : String} (new : name ∉ s.callers.map (·.1))
    (key : LookupKey) :
    s.begin name key = ([], { s with callers := (name, .fresh key) :: s.callers }) := by
  have nobody := lookup_of_new new
  have same := forget_of_new new
  simp only [begin, drop, nobody, setCaller, same]

theorem setCaller_of_front {s : SharedLookups} {name : String} {c : Caller}
    {others : List (String × Caller)} (front : s.callers = (name, c) :: others)
    (new : name ∉ others.map (·.1)) (c' : Caller) :
    s.setCaller name c' = { s with callers := (name, c') :: others } := by
  have kept : others.filter (·.1 ≠ name) = others :=
    congrArg callers (forget_of_new (s := { s with callers := others }) new)
  have gone : (s.forget name).callers = others := by
    rw [forget, front, List.filter_cons_of_neg (by simp), kept]
  rw [setCaller, gone]

theorem isHeld_fresh (s : SharedLookups) (name : String) (key : LookupKey) :
    isHeld { s with callers := (name, .fresh key) :: s.callers } = s.isHeld := by
  funext n
  simp [isHeld]

/-- A call that finds a flight of its key waits for it, and nothing is asked. -/
theorem take_call_of_joinable {s : SharedLookups} {name : String} {key : LookupKey} {n : Nat}
    (new : name ∉ s.callers.map (·.1)) (joined : s.joinable? key = some n) {k : LookupKey}
    (asked : s.flights[n]? = some ⟨k, .asked⟩) :
    s.take (.call name key) =
      (⟨[(name, .pending)], []⟩, { s with callers := (name, .waiting n) :: s.callers }) := by
  have joined : joinable? { s with callers := (name, .fresh key) :: s.callers } key = some n := by
    rw [joinable?, isHeld_fresh]
    exact joined
  have polled : poll { s with callers := (name, .fresh key) :: s.callers } name =
      (.pending, [], { s with callers := (name, .waiting n) :: s.callers }) := by
    simp only [poll, List.lookup_cons_self, joined]
    rw [setCaller_of_front rfl new]
    simp only [look, asked]
  simp [take, begin_of_new new, pollAll, polled]

/-- A call that finds none starts one: one fetch is made. -/
theorem take_call_of_not_joinable {s : SharedLookups} {name : String} {key : LookupKey}
    (new : name ∉ s.callers.map (·.1)) (alone : s.joinable? key = none) :
    s.take (.call name key) =
      (⟨[(name, .pending)], [.started key.id, .fetched s.flights.length key]⟩,
        { flights := s.flights ++ [⟨key, .asked⟩]
          callers := (name, .waiting s.flights.length) :: s.callers
          registry := (key, s.flights.length) :: s.registry.filter fun e => s.isHeld e.2 }) := by
  have alone : joinable? { s with callers := (name, .fresh key) :: s.callers } key = none := by
    rw [joinable?, isHeld_fresh]
    exact alone
  have polled : poll { s with callers := (name, .fresh key) :: s.callers } name =
      (.pending, [.started key.id, .fetched s.flights.length key],
        { flights := s.flights ++ [⟨key, .asked⟩]
          callers := (name, .waiting s.flights.length) :: s.callers
          registry := (key, s.flights.length) :: s.registry.filter fun e => s.isHeld e.2 }) := by
    simp only [poll, List.lookup_cons_self, alone, launch, isHeld_fresh]
    rw [setCaller_of_front rfl new]
  simp [take, begin_of_new new, pollAll, polled]

/-- Those who are polled behind the first one take the answer and leave; nothing more happens. -/
theorem pollAll_of_landed {s : SharedLookups} {n : Nat} {key : LookupKey} {r : LookupResult}
    (landed : s.flights[n]? = some ⟨key, .landed r⟩) {names : List String} (nodup : names.Nodup)
    (waiting : ∀ name ∈ names, s.callers.lookup name = some (.waiting n)) :
    s.pollAll names = (⟨names.map fun name => (name, .ended r), []⟩,
      { s with callers := s.callers.filter (·.1 ∉ names) }) := by
  induction names generalizing s with
  | nil =>
    have all : s.callers.filter (·.1 ∉ ([] : List String)) = s.callers :=
      List.filter_eq_self.mpr (by simp)
    rw [pollAll, all]
    rfl
  | cons name names ih =>
    obtain ⟨once, nodup⟩ := List.nodup_cons.mp nodup
    have first : s.poll name = (.ended r, [], s.forget name) := by
      simp only [poll, waiting name (by simp), look, landed]
    have others : ∀ other ∈ names, (s.forget name).callers.lookup other = some (.waiting n) := by
      intro other ho
      have apart : other ≠ name := fun same => once (same ▸ ho)
      exact lookup_filter (waiting other (by simp [ho])) (by simpa using apart)
    have rest := ih (s := s.forget name) landed nodup others
    simp only [pollAll, first, rest, List.map_cons, List.append_nil]
    simp [forget, List.filter_filter, Bool.and_comm]

theorem mem_waiters {s : SharedLookups} {n : Nat} {name : String} :
    name ∈ s.waiters n ↔ (name, .waiting n) ∈ s.callers := by
  simp [waiters]

theorem flights_land_self {s : SharedLookups} {n : Nat} {key : LookupKey} {stage : FlightStage}
    (h : s.flights[n]? = some ⟨key, stage⟩) (r : LookupResult) :
    (s.land n key r).flights[n]? = some ⟨key, .landed r⟩ := by
  simp [land, setStage, h]

theorem flights_land_other {s : SharedLookups} {m n : Nat} (apart : m ≠ n) (key : LookupKey)
    (r : LookupResult) : (s.land n key r).flights[m]? = s.flights[m]? :=
  List.getElem?_modify_ne _ _ (Ne.symm apart)

/-- An answer goes to those who are polled with it: the flight has landed, and a later caller of its
key does not find it. -/
theorem take_answer {s : SharedLookups} (named : (s.callers.map (·.1)).Nodup) {n : Nat}
    {key : LookupKey} (asked : s.flights[n]? = some ⟨key, .asked⟩) (r : LookupResult)
    {order : List String} (allowed : s.Allows (.answer n r order)) :
    s.take (.answer n r order) =
      (⟨order.map fun name => (name, .ended r), [.done key.id]⟩,
        { s.land n key r with callers := s.callers.filter (·.1 ∉ order) }) := by
  obtain ⟨live, someone, nodup, waiters⟩ := allowed
  have waiting : ∀ name ∈ order, s.callers.lookup name = some (.waiting n) :=
    fun name h => lookup_of_mem_of_nodup named (mem_waiters.mp (waiters h))
  cases order with
  | nil => exact absurd rfl someone
  | cons name names =>
    obtain ⟨once, nodup⟩ := List.nodup_cons.mp nodup
    have answered : (s.setStage n (.answered r)).flights[n]? = some ⟨key, .answered r⟩ := by
      simp [setStage, asked]
    -- the first one that is polled lands the flight, and the others find it landed
    have first : (s.setStage n (.answered r)).poll name = (.ended r, [.done key.id],
        ((s.setStage n (.answered r)).land n key r).forget name) := by
      have found : (s.setStage n (.answered r)).callers.lookup name = some (.waiting n) :=
        waiting name (by simp)
      simp only [poll, found, look, answered]
    have landed : (((s.setStage n (.answered r)).land n key r).forget name).flights[n]? =
        some ⟨key, .landed r⟩ := by
      simp [forget, land, setStage, asked]
    have others : ∀ other ∈ names,
        (((s.setStage n (.answered r)).land n key r).forget name).callers.lookup other =
          some (.waiting n) := by
      intro other ho
      have apart : other ≠ name := fun same => once (same ▸ ho)
      exact lookup_filter (waiting other (by simp [ho])) (by simpa using apart)
    have rest := pollAll_of_landed landed nodup others
    simp only [take, answer, live, if_true, pollAll, first, rest, List.map_cons]
    simp [forget, land, setStage, List.modify_modify_eq, List.filter_filter, Bool.and_comm,
      Function.comp_def]

theorem take_poll_of_asked {s : SharedLookups} (named : (s.callers.map (·.1)).Nodup) {name : String}
    {n : Nat} (h : (name, .waiting n) ∈ s.callers) {key : LookupKey}
    (asked : s.flights[n]? = some ⟨key, .asked⟩) :
    s.take (.poll name) = (⟨[(name, .pending)], []⟩, s) := by
  have found := lookup_of_mem_of_nodup named h
  simp [take, pollAll, poll, found, look, asked]

theorem take_poll_of_landed {s : SharedLookups} (named : (s.callers.map (·.1)).Nodup) {name : String}
    {n : Nat} (h : (name, .waiting n) ∈ s.callers) {key : LookupKey} {r : LookupResult}
    (landed : s.flights[n]? = some ⟨key, .landed r⟩) :
    s.take (.poll name) = (⟨[(name, .ended r)], []⟩, s.forget name) := by
  have found := lookup_of_mem_of_nodup named h
  simp [take, pollAll, poll, found, look, landed]

/-- A caller lets go; a flight that is left alone before its answer ends. -/
theorem take_drop_of_asked {s : SharedLookups} (named : (s.callers.map (·.1)).Nodup) {name : String}
    {n : Nat} (h : (name, .waiting n) ∈ s.callers) {key : LookupKey}
    (asked : s.flights[n]? = some ⟨key, .asked⟩) :
    s.take (.drop name) =
      ({ notices := if (s.forget name).isHeld n then [] else [.done key.id] }, s.forget name) := by
  have found := lookup_of_mem_of_nodup named h
  have kept : (s.forget name).flights[n]? = some ⟨key, .asked⟩ := asked
  simp only [take, drop, found, abandon, kept]

/-- A flight that has landed has ended before. -/
theorem take_drop_of_landed {s : SharedLookups} (named : (s.callers.map (·.1)).Nodup) {name : String}
    {n : Nat} (h : (name, .waiting n) ∈ s.callers) {key : LookupKey} {r : LookupResult}
    (landed : s.flights[n]? = some ⟨key, .landed r⟩) :
    s.take (.drop name) = ({}, s.forget name) := by
  have found := lookup_of_mem_of_nodup named h
  have kept : (s.forget name).flights[n]? = some ⟨key, .landed r⟩ := landed
  simp only [take, drop, found, abandon, kept]

end SharedLookups

end IngestViewer
