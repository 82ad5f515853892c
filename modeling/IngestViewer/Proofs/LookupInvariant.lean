import IngestViewer.Proofs.LookupSteps

namespace IngestViewer.SharedLookups

/-- What holds between the steps of a run. -/
structure Sound (s : SharedLookups) : Prop where
  /-- No two callers have one name. -/
  named : (s.callers.map (·.1)).Nodup
  /-- Every caller waits for a flight that waits for its answer, or whose answer has been seen. -/
  waiting : ∀ c ∈ s.callers, ∃ n key, c.2 = .waiting n ∧
    (s.flights[n]? = some ⟨key, .asked⟩ ∨ ∃ r, s.flights[n]? = some ⟨key, .landed r⟩)
  /-- Those who come for the key of a live flight are shown that flight. -/
  registered : ∀ n key, s.flights[n]? = some ⟨key, .asked⟩ → s.isHeld n = true →
    s.registry.lookup key = some n
  /-- The registry shows flights that wait for their answers, under their keys. -/
  entries : ∀ key n, (key, n) ∈ s.registry → s.flights[n]? = some ⟨key, .asked⟩

theorem getElem?_append_of_some {α : Type} {l l' : List α} {n : Nat} {a : α}
    (h : l[n]? = some a) : (l ++ l')[n]? = some a :=
  (List.getElem?_append_left (List.getElem?_eq_some_iff.mp h).1).trans h

/-- The flight that a new caller joins is live and of its key. -/
theorem asked_of_joinable {s : SharedLookups} (sound : s.Sound) {key : LookupKey} {n : Nat}
    (h : s.joinable? key = some n) : s.flights[n]? = some ⟨key, .asked⟩ ∧ s.isHeld n = true := by
  obtain ⟨found, held⟩ := Option.filter_eq_some_iff.mp h
  exact ⟨sound.entries key n (mem_of_lookup found), held⟩

theorem joinable_of_asked {s : SharedLookups} (sound : s.Sound) {key : LookupKey} {n : Nat}
    (asked : s.flights[n]? = some ⟨key, .asked⟩) (held : s.isHeld n = true) :
    s.joinable? key = some n :=
  Option.filter_eq_some_iff.mpr ⟨sound.registered n key asked held, held⟩

theorem flight_of_waiting {s : SharedLookups} (sound : s.Sound) {n : Nat} {name : String}
    (h : (name, .waiting n) ∈ s.callers) :
    ∃ key, s.flights[n]? = some ⟨key, .asked⟩ ∨ ∃ r, s.flights[n]? = some ⟨key, .landed r⟩ := by
  obtain ⟨m, key, same, stage⟩ := sound.waiting _ h
  cases same
  exact ⟨key, stage⟩

theorem isHeld_of_fewer {s : SharedLookups} {p : String × Caller → Bool} {n : Nat}
    (h : isHeld { s with callers := s.callers.filter p } n = true) : s.isHeld n = true := by
  obtain ⟨name, waits⟩ := isHeld_iff.mp h
  exact isHeld_iff.mpr ⟨name, (List.mem_filter.mp waits).1⟩

theorem isHeld_of_more {s : SharedLookups} {name : String} {m n : Nat} (apart : n ≠ m)
    (h : isHeld { s with callers := (name, .waiting m) :: s.callers } n = true) :
    s.isHeld n = true := by
  obtain ⟨other, waits⟩ := isHeld_iff.mp h
  rcases List.mem_cons.mp waits with same | waits
  · cases same
    exact absurd rfl apart
  · exact isHeld_iff.mpr ⟨other, waits⟩

theorem sound_start : Sound {} where
  named := .nil
  waiting := by rintro c ⟨⟩
  registered := by rintro n key ⟨⟩
  entries := by rintro key n ⟨⟩

theorem sound_joined {s : SharedLookups} (sound : s.Sound) {name : String} {key : LookupKey} {n : Nat}
    (new : name ∉ s.callers.map (·.1)) (asked : s.flights[n]? = some ⟨key, .asked⟩)
    (held : s.isHeld n = true) : Sound { s with callers := (name, .waiting n) :: s.callers } where
  named := List.nodup_cons.mpr ⟨new, sound.named⟩
  waiting := List.forall_mem_cons.mpr ⟨⟨n, key, rfl, .inl asked⟩, sound.waiting⟩
  registered := by
    intro m k still now
    by_cases same : m = n
    · subst same
      exact sound.registered m k still held
    · exact sound.registered m k still (isHeld_of_more same now)
  entries := sound.entries

theorem sound_launched {s : SharedLookups} (sound : s.Sound) {name : String} {key : LookupKey}
    (new : name ∉ s.callers.map (·.1)) (alone : s.joinable? key = none) :
    Sound { flights := s.flights ++ [⟨key, .asked⟩]
            callers := (name, .waiting s.flights.length) :: s.callers
            registry := (key, s.flights.length) :: s.registry.filter fun e => s.isHeld e.2 } where
  named := List.nodup_cons.mpr ⟨new, sound.named⟩
  waiting := by
    refine List.forall_mem_cons.mpr ⟨⟨s.flights.length, key, rfl, .inl (by simp)⟩, fun c hc => ?_⟩
    obtain ⟨n, k, waits, asked | ⟨r, landed⟩⟩ := sound.waiting c hc
    · exact ⟨n, k, waits, .inl (getElem?_append_of_some asked)⟩
    · exact ⟨n, k, waits, .inr ⟨r, getElem?_append_of_some landed⟩⟩
  registered := by
    intro m k asked now
    by_cases latest : m = s.flights.length
    · subst latest
      simp at asked
      simp [asked]
    · have bound := (List.getElem?_eq_some_iff.mp asked).1
      have bound : m < s.flights.length := by
        rw [List.length_append, List.length_singleton] at bound
        omega
      rw [List.getElem?_append_left bound] at asked
      have held := isHeld_of_more latest now
      -- a live flight of the key would have been joined
      have other : (k == key) = false := by
        refine beq_eq_false_iff_ne.mpr fun same => ?_
        subst same
        rw [joinable_of_asked sound asked held] at alone
        cases alone
      rw [List.lookup_cons, other]
      exact lookup_filter (sound.registered m k asked held) held
  entries := by
    intro k n h
    rcases List.mem_cons.mp h with same | h
    · cases same
      simp
    · exact getElem?_append_of_some (sound.entries k n (List.mem_filter.mp h).1)

theorem sound_fewer {s : SharedLookups} (sound : s.Sound) (p : String × Caller → Bool) :
    Sound { s with callers := s.callers.filter p } where
  named := sound.named.sublist (List.filter_sublist.map _)
  waiting := fun c hc => sound.waiting c (List.mem_filter.mp hc).1
  registered := fun n key asked now => sound.registered n key asked (isHeld_of_fewer now)
  entries := sound.entries

/-- The landed flight leaves the registry by its key, and no other flight does. -/
theorem sound_landed {s : SharedLookups} (sound : s.Sound) {n : Nat} {key : LookupKey}
    (asked : s.flights[n]? = some ⟨key, .asked⟩) (held : s.isHeld n = true) (r : LookupResult) :
    (s.land n key r).Sound where
  named := sound.named
  waiting := by
    intro c hc
    obtain ⟨m, k, waits, stage⟩ := sound.waiting c hc
    by_cases same : m = n
    · subst same
      exact ⟨m, key, waits, .inr ⟨r, flights_land_self asked r⟩⟩
    · rw [← flights_land_other same key r] at stage
      exact ⟨m, k, waits, stage⟩
  registered := by
    intro m k still now
    by_cases same : m = n
    · subst same
      rw [flights_land_self asked r] at still
      cases still
    · rw [flights_land_other same key r] at still
      have found := sound.registered m k still now
      -- the registry forgets by the key, which no other live flight has
      have other : k ≠ key := by
        intro h
        subst h
        rw [sound.registered n k asked held] at found
        exact same (Option.some.inj found).symm
      exact lookup_filter found (by simpa using other)
  entries := by
    intro k m h
    obtain ⟨h, other⟩ := List.mem_filter.mp h
    have entry := sound.entries k m h
    have apart : m ≠ n := by
      intro same
      subst same
      rw [asked] at entry
      cases entry
      simp at other
    exact (flights_land_other apart key r).trans entry

/-- What a step makes seen, and the state that it leads to. -/
inductive Effect (s : SharedLookups) : LookupStep → StepReport → SharedLookups → Prop where
  | joined {name : String} {key : LookupKey} {n : Nat} (new : name ∉ s.callers.map (·.1))
      (asked : s.flights[n]? = some ⟨key, .asked⟩) (held : s.isHeld n = true) :
      Effect s (.call name key) ⟨[(name, .pending)], []⟩
        { s with callers := (name, .waiting n) :: s.callers }
  | launched {name : String} {key : LookupKey} (new : name ∉ s.callers.map (·.1))
      (alone : s.joinable? key = none) :
      Effect s (.call name key)
        ⟨[(name, .pending)], [.started key.id, .fetched s.flights.length key]⟩
        { flights := s.flights ++ [⟨key, .asked⟩]
          callers := (name, .waiting s.flights.length) :: s.callers
          registry := (key, s.flights.length) :: s.registry.filter fun e => s.isHeld e.2 }
  | answered {n : Nat} {key : LookupKey} {r : LookupResult} {order : List String}
      (asked : s.flights[n]? = some ⟨key, .asked⟩) (held : s.isHeld n = true) :
      Effect s (.answer n r order)
        ⟨order.map fun name => (name, .ended r), [.done key.id]⟩
        { s.land n key r with callers := s.callers.filter (·.1 ∉ order) }
  | kept {name : String} {n : Nat} {key : LookupKey} (waits : (name, .waiting n) ∈ s.callers)
      (asked : s.flights[n]? = some ⟨key, .asked⟩) :
      Effect s (.poll name) ⟨[(name, .pending)], []⟩ s
  | told {name : String} {n : Nat} {key : LookupKey} {r : LookupResult}
      (waits : (name, .waiting n) ∈ s.callers) (landed : s.flights[n]? = some ⟨key, .landed r⟩) :
      Effect s (.poll name) ⟨[(name, .ended r)], []⟩ (s.forget name)
  | left {name : String} {n : Nat} {key : LookupKey} (waits : (name, .waiting n) ∈ s.callers)
      (asked : s.flights[n]? = some ⟨key, .asked⟩) :
      Effect s (.drop name)
        { notices := if (s.forget name).isHeld n then [] else [.done key.id] } (s.forget name)
  | leftLanded {name : String} {n : Nat} {key : LookupKey} {r : LookupResult}
      (waits : (name, .waiting n) ∈ s.callers) (landed : s.flights[n]? = some ⟨key, .landed r⟩) :
      Effect s (.drop name) {} (s.forget name)

theorem effect_take {s : SharedLookups} (sound : s.Sound) {a : LookupStep} (allowed : s.Allows a) :
    s.Effect a (s.take a).1 (s.take a).2 := by
  cases a with
  | call name key =>
    cases joined : s.joinable? key with
    | none =>
      rw [take_call_of_not_joinable allowed joined]
      exact .launched allowed joined
    | some n =>
      obtain ⟨asked, held⟩ := asked_of_joinable sound joined
      rw [take_call_of_joinable allowed joined asked]
      exact .joined allowed asked held
  | answer n r order =>
    obtain ⟨⟨key, asked⟩, held⟩ := isLive_iff.mp allowed.1
    rw [take_answer sound.named asked r allowed]
    exact .answered asked held
  | poll name =>
    obtain ⟨n, waits⟩ := allowed
    obtain ⟨key, asked | ⟨r, landed⟩⟩ := flight_of_waiting sound waits
    · rw [take_poll_of_asked sound.named waits asked]
      exact .kept waits asked
    · rw [take_poll_of_landed sound.named waits landed]
      exact .told waits landed
  | drop name =>
    obtain ⟨n, waits⟩ := allowed
    obtain ⟨key, asked | ⟨r, landed⟩⟩ := flight_of_waiting sound waits
    · rw [take_drop_of_asked sound.named waits asked]
      exact .left waits asked
    · rw [take_drop_of_landed sound.named waits landed]
      exact .leftLanded waits landed

theorem sound_of_effect {s t : SharedLookups} {a : LookupStep} {report : StepReport}
    (sound : s.Sound) (h : s.Effect a report t) : t.Sound := by
  cases h with
  | joined new asked held => exact sound_joined sound new asked held
  | launched new alone => exact sound_launched sound new alone
  | answered asked held => exact sound_fewer (sound_landed sound asked held _) _
  | kept => exact sound
  | told => exact sound_fewer sound _
  | left => exact sound_fewer sound _
  | leftLanded => exact sound_fewer sound _

/-- What can become of a flight: it stays as it is, or it waits for its answer and has got it. -/
def Becomes (f g : Flight) : Prop :=
  g = f ∨ f.stage = .asked ∧ ∃ r, g = ⟨f.key, .landed r⟩

theorem Becomes.trans {f g h : Flight} (first : Becomes f g) (second : Becomes g h) :
    Becomes f h := by
  rcases first with rfl | ⟨asked, r, rfl⟩
  · exact second
  · rcases second with rfl | ⟨again, -⟩
    · exact .inr ⟨asked, r, rfl⟩
    · cases again

theorem becomes_of_effect {s t : SharedLookups} {a : LookupStep} {report : StepReport}
    (h : s.Effect a report t) {n : Nat} {f : Flight} (now : s.flights[n]? = some f) :
    ∃ g, t.flights[n]? = some g ∧ Becomes f g := by
  cases h with
  | launched => exact ⟨f, getElem?_append_of_some now, .inl rfl⟩
  | @answered m key r _ asked _ =>
    by_cases same : n = m
    · subst same
      rw [asked] at now
      cases now
      exact ⟨_, flights_land_self asked r, .inr ⟨rfl, r, rfl⟩⟩
    · exact ⟨f, (flights_land_other same key r).trans now, .inl rfl⟩
  | joined => exact ⟨f, now, .inl rfl⟩
  | kept => exact ⟨f, now, .inl rfl⟩
  | told => exact ⟨f, now, .inl rfl⟩
  | left => exact ⟨f, now, .inl rfl⟩
  | leftLanded => exact ⟨f, now, .inl rfl⟩

theorem sound_of_leads {s t : SharedLookups} (sound : s.Sound) (h : s.Leads t) : t.Sound := by
  induction h with
  | here => exact sound
  | step a _ allowed ih => exact sound_of_effect ih (effect_take ih allowed)

theorem becomes_of_leads {s t : SharedLookups} (sound : s.Sound) (run : s.Leads t) {n : Nat}
    {f : Flight} (h : s.flights[n]? = some f) : ∃ g, t.flights[n]? = some g ∧ Becomes f g := by
  induction run with
  | here => exact ⟨f, h, .inl rfl⟩
  | step a run allowed ih =>
    obtain ⟨g, now, first⟩ := ih
    have effect := effect_take (sound_of_leads sound run) allowed
    obtain ⟨k, later, second⟩ := becomes_of_effect effect now
    exact ⟨k, later, first.trans second⟩

/-- A flight that has landed stays as it is. -/
theorem landed_of_leads {s t : SharedLookups} (sound : s.Sound) (run : s.Leads t) {n : Nat}
    {key : LookupKey} {r : LookupResult} (landed : s.flights[n]? = some ⟨key, .landed r⟩) :
    t.flights[n]? = some ⟨key, .landed r⟩ := by
  obtain ⟨g, now, rfl | ⟨asked, -⟩⟩ := becomes_of_leads sound run landed
  · exact now
  · cases asked

theorem sound_of_reachable {s : SharedLookups} (h : s.Reachable) : s.Sound :=
  sound_of_leads sound_start h

end IngestViewer.SharedLookups
