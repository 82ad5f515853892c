import IngestViewer.Proofs.LookupInvariant

namespace IngestViewer.SharedLookups

/-- A flight for a key that waits for its answer, while somebody waits for the flight. -/
def IsLiveFor (s : SharedLookups) (n : Nat) (key : LookupKey) : Prop :=
  s.flights[n]? = some ⟨key, .asked⟩ ∧ s.isHeld n = true

/-- What callers of one key have in common, in a state and in the runs from there. -/
structure SharesFlights (s : SharedLookups) : Prop where
  /-- A key has one live flight at most. -/
  alone : ∀ key m n, s.IsLiveFor m key → s.IsLiveFor n key → m = n
  /-- A caller waits for one flight. -/
  waits : ∀ name m n, (name, .waiting m) ∈ s.callers → (name, .waiting n) ∈ s.callers → m = n
  /-- Who comes for the key of a live flight waits for that flight, and nothing is fetched. -/
  joins : ∀ name key n, s.Allows (.call name key) → s.IsLiveFor n key →
    s.take (.call name key) =
      (⟨[(name, .pending)], []⟩, { s with callers := (name, .waiting n) :: s.callers })
  /-- Who comes for any other key waits for a flight of its own, and one fetch is made. -/
  starts : ∀ name key, s.Allows (.call name key) → (∀ n, ¬ s.IsLiveFor n key) →
    let (report, t) := s.take (.call name key)
    report = ⟨[(name, .pending)], [.started key.id, .fetched s.flights.length key]⟩ ∧
      t.flights = s.flights ++ [⟨key, .asked⟩] ∧
      t.callers = (name, .waiting s.flights.length) :: s.callers
  /-- A live flight can be answered, and all who wait for it can be told at once. -/
  answerable : ∀ n key r, s.IsLiveFor n key → s.Allows (.answer n r (s.waiters n))
  /-- Those who are polled with the answer of a flight get it, those who wait for it and are polled
  later get it then, and nothing happens to the others. -/
  answers : ∀ n key r order, s.IsLiveFor n key → s.Allows (.answer n r order) →
    let (report, t) := s.take (.answer n r order)
    report = ⟨order.map fun name => (name, .ended r), [.done key.id]⟩ ∧
      t.callers = s.callers.filter (·.1 ∉ order) ∧
      (∀ m, m ≠ n → t.flights[m]? = s.flights[m]?) ∧
      ∀ u, t.Leads u → ∀ name, (name, .waiting n) ∈ u.callers →
        u.take (.poll name) = (⟨[(name, .ended r)], []⟩, u.forget name)
  /-- When one of several callers lets go of their flight, only that caller is gone. -/
  outlives : ∀ n name other, other ≠ name → (name, .waiting n) ∈ s.callers →
    (other, .waiting n) ∈ s.callers →
    s.take (.drop name) = ({}, s.forget name) ∧
      ∀ key, s.IsLiveFor n key → (s.forget name).IsLiveFor n key
  /-- A flight is for one key, and has one answer at most. -/
  remembers : ∀ (t : SharedLookups) (n : Nat) (f : Flight), s.Leads t → s.flights[n]? = some f →
    ∃ g, t.flights[n]? = some g ∧ Becomes f g

theorem joinable_iff_isLiveFor {s : SharedLookups} (sound : s.Sound) {key : LookupKey} {n : Nat} :
    s.joinable? key = some n ↔ s.IsLiveFor n key :=
  ⟨asked_of_joinable sound, fun live => joinable_of_asked sound live.1 live.2⟩

theorem isHeld_forget {s : SharedLookups} {name other : String} {n : Nat} (apart : other ≠ name)
    (h : (other, .waiting n) ∈ s.callers) : (s.forget name).isHeld n = true :=
  isHeld_iff.mpr ⟨other, List.mem_filter.mpr ⟨h, by simpa using apart⟩⟩

theorem answer_of_live {s : SharedLookups} (sound : s.Sound) {n : Nat} {key : LookupKey}
    {r : LookupResult} {order : List String} (live : s.IsLiveFor n key)
    (allowed : s.Allows (.answer n r order)) {u : SharedLookups}
    (run : (s.take (.answer n r order)).2.Leads u) (name : String)
    (h : (name, .waiting n) ∈ u.callers) :
    u.take (.poll name) = (⟨[(name, .ended r)], []⟩, u.forget name) := by
  have after := sound_of_effect sound (effect_take sound allowed)
  rw [take_answer sound.named live.1 r allowed] at after run
  have landed := landed_of_leads after run (flights_land_self live.1 r)
  exact take_poll_of_landed (sound_of_leads after run).named h landed

theorem drop_of_shared {s : SharedLookups} (sound : s.Sound) {n : Nat} {name other : String}
    (apart : other ≠ name) (h : (name, .waiting n) ∈ s.callers)
    (remains : (other, .waiting n) ∈ s.callers) :
    s.take (.drop name) = ({}, s.forget name) := by
  obtain ⟨key, asked | ⟨r, landed⟩⟩ := flight_of_waiting sound h
  · rw [take_drop_of_asked sound.named h asked, isHeld_forget apart remains]
    rfl
  · exact take_drop_of_landed sound.named h landed

/-- In every state that runs lead to, the callers of a key share its flight. -/
theorem sharesFlights_of_reachable {s : SharedLookups} (h : s.Reachable) : s.SharesFlights := by
  have sound := sound_of_reachable h
  constructor
  case alone =>
    intro key m n first second
    have joined := (joinable_iff_isLiveFor sound).mpr first
    rw [(joinable_iff_isLiveFor sound).mpr second] at joined
    exact (Option.some.inj joined).symm
  case waits =>
    intro name m n first second
    have found := lookup_of_mem_of_nodup sound.named first
    rw [lookup_of_mem_of_nodup sound.named second] at found
    cases found
    rfl
  case joins =>
    intro name key n new live
    exact take_call_of_joinable new ((joinable_iff_isLiveFor sound).mpr live) live.1
  case starts =>
    intro name key new nobody
    have alone : s.joinable? key = none := by
      refine Option.eq_none_iff_forall_ne_some.mpr fun n joined => ?_
      exact nobody n ((joinable_iff_isLiveFor sound).mp joined)
    rw [take_call_of_not_joinable new alone]
    exact ⟨rfl, rfl, rfl⟩
  case answerable =>
    intro n key r ⟨asked, held⟩
    obtain ⟨name, waits⟩ := isHeld_iff.mp held
    refine ⟨isLive_iff.mpr ⟨⟨key, asked⟩, held⟩, ?_, ?_, List.Subset.refl _⟩
    · exact List.ne_nil_of_mem (mem_waiters.mpr waits)
    · exact sound.named.sublist (List.filter_sublist.map _)
  case answers =>
    intro n key r order live allowed
    have later := fun u => answer_of_live sound live allowed (u := u)
    rw [take_answer sound.named live.1 r allowed] at later ⊢
    exact ⟨rfl, rfl, fun m apart => flights_land_other apart key r, later⟩
  case outlives =>
    intro n name other apart waits remains
    refine ⟨drop_of_shared sound apart waits remains, ?_⟩
    intro key live
    exact ⟨live.1, isHeld_forget apart remains⟩
  case remembers =>
    intro t n f run now
    exact becomes_of_leads sound run now

/-- The first of two callers of one key lets go, and the fetch goes on for the second. -/
theorem drop_of_first_of_two :
    let key : LookupKey := ⟨⟨"a"⟩, .auto⟩
    let s : SharedLookups :=
      { flights := [⟨key, .asked⟩], callers := [("second", .waiting 0), ("first", .waiting 0)],
        registry := [(key, 0)] }
    s.Reachable ∧ (s.take (.drop "first")).1.notices = [] ∧ (s.forget "first").IsLiveFor 0 key := by
  intro key s
  have started : (take {} (.call "first" key)).2 =
      { flights := [⟨key, .asked⟩], callers := [("first", .waiting 0)], registry := [(key, 0)] } :=
    congrArg (·.2) (take_call_of_not_joinable (by simp) rfl)
  have first : Leads {} (take {} (.call "first" key)).2 := .step _ .here (by simp [Allows])
  rw [started] at first
  have reachable : s.Reachable := by
    have both := first.step (.call "second" key) (by simp [Allows])
    rw [take_call_of_joinable (by simp) rfl rfl] at both
    exact both
  have shares := sharesFlights_of_reachable reachable
  have gone := shares.outlives 0 "first" "second" (by decide) (by simp [s]) (by simp [s])
  exact ⟨reachable, congrArg (·.1.notices) gone.1, gone.2 key ⟨rfl, by decide⟩⟩

end IngestViewer.SharedLookups
