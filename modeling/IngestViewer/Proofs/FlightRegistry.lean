import IngestViewer.Proofs.FreshAnswers
import IngestViewer.Proofs.ProgressBrackets

namespace IngestViewer.SharedLookups

/-- Whether a fetch is made at a step. -/
def Launches (s : SharedLookups) (a : LookupStep) : Prop :=
  ∃ n key, .fetched n key ∈ (s.take a).1.notices

/-- Of the entries of the registry those of live flights are held, and no live flight lacks its
entry. -/
theorem isLiveFor_iff_mem_registry {s : SharedLookups} (sound : s.Sound) {key : LookupKey} {n : Nat} :
    s.IsLiveFor n key ↔ (key, n) ∈ s.registry ∧ s.isHeld n = true := by
  constructor
  · rintro ⟨asked, held⟩
    exact ⟨mem_of_lookup (sound.registered n key asked held), held⟩
  · rintro ⟨entry, held⟩
    exact ⟨sound.entries key n entry, held⟩

/-- No key is registered twice: a key that gets an entry has no live flight, and the entries of other
flights are swept away. -/
theorem nodup_registry_of_effect {s t : SharedLookups} {a : LookupStep} {report : StepReport}
    (sound : s.Sound) (h : s.Effect a report t) (once : (s.registry.map (·.1)).Nodup) :
    (t.registry.map (·.1)).Nodup := by
  cases h with
  | @launched name key new alone =>
    refine List.nodup_cons.mpr ⟨fun inside => ?_, once.sublist (List.filter_sublist.map _)⟩
    obtain ⟨⟨k, n⟩, entry, same⟩ := List.mem_map.mp inside
    obtain ⟨entry, held⟩ := List.mem_filter.mp entry
    obtain rfl : k = key := same
    -- a live flight of the key would have been joined
    rw [joinable_of_asked sound (sound.entries k n entry) held] at alone
    cases alone
  | answered => exact once.sublist (List.filter_sublist.map _)
  | joined | kept | told | left | leftLanded => exact once

theorem nodup_registry {steps : List LookupStep} (allowed : AllowsAll {} steps) :
    ((afterSteps {} steps).registry.map (·.1)).Nodup :=
  invariant_of_run (P := fun _ s => (s.registry.map (·.1)).Nodup) .nil
    (fun ends once => nodup_registry_of_effect ends.sound ends.effect once) allowed

/-- After a fetch has been made the registry shows the live flights and nothing else. -/
theorem mem_registry_of_fetched {s t : SharedLookups} {a : LookupStep} {report : StepReport}
    (sound : s.Sound) (h : s.Effect a report t) {n : Nat} {key : LookupKey}
    (made : .fetched n key ∈ report.notices) (k : LookupKey) (m : Nat) :
    (k, m) ∈ t.registry ↔ t.IsLiveFor m k := by
  cases h with
  | launched =>
    rw [isLiveFor_launched, isLiveFor_iff_mem_registry sound, List.mem_cons, List.mem_filter,
      Prod.mk.injEq, or_comm, and_comm (a := k = _)]
  | @left name i _ _ _ =>
    by_cases held : (s.forget name).isHeld i = true <;> simp [held] at made
  | joined | answered | kept | told | leftLanded => simp at made

/-- An answered flight takes its entry away, and no other one's. -/
theorem mem_registry_land {s : SharedLookups} (sound : s.Sound)
    (once : (s.registry.map (·.1)).Nodup) {n : Nat} {key : LookupKey} (live : s.IsLiveFor n key)
    (r : LookupResult) (entry : LookupKey × Nat) :
    entry ∈ (s.land n key r).registry ↔ entry ∈ s.registry ∧ entry.2 ≠ n := by
  obtain ⟨k, m⟩ := entry
  have own := (isLiveFor_iff_mem_registry sound).mp live
  have forgotten : (k, m) ∈ (s.land n key r).registry ↔ (k, m) ∈ s.registry ∧ k ≠ key := by
    simp [land]
  rw [forgotten]
  -- the entry goes by its key, which the flight shares with no other entry
  refine and_congr_right fun entry => not_congr ⟨?_, ?_⟩
  · rintro rfl
    have found := lookup_of_mem_of_nodup once entry
    rw [lookup_of_mem_of_nodup once own.1] at found
    exact (Option.some.inj found).symm
  · rintro rfl
    have asked := sound.entries k m entry
    rw [live.1] at asked
    cases asked
    rfl

/-- Without a new fetch entries only go. -/
theorem registry_sublist_of_effect {s t : SharedLookups} {a : LookupStep} {report : StepReport}
    (h : s.Effect a report t) (silent : ∀ n key, .fetched n key ∉ report.notices) :
    t.registry.Sublist s.registry := by
  cases h with
  | @launched name key new alone => exact absurd (by simp) (silent s.flights.length key)
  | answered => exact List.filter_sublist
  | joined | kept | told | left | leftLanded => exact .refl _

theorem registry_sublist_of_silent {s : SharedLookups} (sound : s.Sound) {steps : List LookupStep}
    (allowed : s.AllowsAll steps) (silent : ∀ n key, .fetched n key ∉ s.seenAll steps) :
    (s.afterSteps steps).registry.Sublist s.registry := by
  induction steps generalizing s with
  | nil => exact .refl _
  | cons a steps ih =>
    have effect := effect_take sound allowed.1
    have seen : s.seenAll (a :: steps) = (s.take a).1.notices ++ (s.take a).2.seenAll steps := by
      rw [seenAll, SharedLookups.seen, if_pos rfl, seenAll]
    simp only [seen, List.mem_append, not_or] at silent
    have first := registry_sublist_of_effect effect fun n key => (silent n key).1
    have others := ih (sound_of_effect sound effect) allowed.2 fun n key => (silent n key).2
    exact others.trans first

/-- A registry that shows the live flights only is as long as they are many. -/
theorem length_registry {s : SharedLookups} (once : (s.registry.map (·.1)).Nodup)
    (exact : ∀ key n, (key, n) ∈ s.registry ↔ s.IsLiveFor n key) :
    s.registry.length = s.liveFlights.length := by
  have apart : (s.registry.map (·.2)).Nodup := by
    refine List.pairwise_map.mpr ((List.pairwise_map.mp once).imp_of_mem ?_)
    rintro ⟨key, n⟩ ⟨key', n'⟩ entry entry' other same
    obtain rfl : n = n' := same
    have asked := ((exact key n).mp entry).1
    rw [((exact key' n).mp entry').1] at asked
    cases asked
    exact other rfl
  rw [← List.length_map (·.2)]
  refine length_eq_of_same apart s.nodup_liveFlights fun n => ?_
  rw [mem_liveFlights, List.mem_map]
  constructor
  · rintro ⟨⟨key, m⟩, entry, rfl⟩
    exact ⟨key, (exact key m).mp entry⟩
  · rintro ⟨key, live⟩
    exact ⟨(key, n), (exact key n).mpr live, rfl⟩

theorem registry_of_launch {past : List LookupStep} {a : LookupStep}
    (allowed : AllowsAll {} (past ++ [a])) (launches : (afterSteps {} past).Launches a)
    (key : LookupKey) (n : Nat) : (key, n) ∈ (afterSteps {} (past ++ [a])).registry ↔
      (afterSteps {} (past ++ [a])).IsLiveFor n key := by
  have ends := ends_of_allowsAll allowed
  obtain ⟨m, k, made⟩ := launches
  exact mem_registry_of_fetched ends.sound ends.effect made key n

/-- What the registry shows at the end of a run. -/
structure ShowsLive (steps : List LookupStep) : Prop where
  /-- Under the key of a live flight it shows that flight. -/
  live : ∀ n key, (afterSteps {} steps).IsLiveFor n key →
    (afterSteps {} steps).registry.lookup key = some n
  once : ((afterSteps {} steps).registry.map (·.1)).Nodup
  /-- Just after a new fetch it shows the live flights and nothing else. -/
  swept : ∀ past a, steps = past ++ [a] → (afterSteps {} past).Launches a → ∀ key n,
    (key, n) ∈ (afterSteps {} steps).registry ↔ (afterSteps {} steps).IsLiveFor n key
  /-- A flight that is answered has an entry, which goes, and the entries of all others stay. -/
  answered : ∀ n r order, AllowsAll {} (steps ++ [.answer n r order]) →
    (∃ key, (key, n) ∈ (afterSteps {} steps).registry) ∧
      ∀ entry, entry ∈ (afterSteps {} (steps ++ [.answer n r order])).registry ↔
        entry ∈ (afterSteps {} steps).registry ∧ entry.2 ≠ n
  /-- An answer to a flight that has been left alone changes nothing. -/
  late : ∀ n r, (afterSteps {} steps).isLive n = false →
    (afterSteps {} steps).answer n r = (false, afterSteps {} steps)
  /-- Until the next fetch there are no more entries than there were live flights after the last. -/
  bounded : ∀ past a rest, steps = past ++ a :: rest → (afterSteps {} past).Launches a →
    (∀ n key, .fetched n key ∉ seenAll (afterSteps {} (past ++ [a])) rest) →
    (afterSteps {} steps).registry.length ≤ (afterSteps {} (past ++ [a])).liveFlights.length
  /-- When all that has been fetched has been answered it is empty. -/
  cleared : (∀ n key, .fetched n key ∈ seenAll {} steps → ∃ r order, .answer n r order ∈ steps) →
    (afterSteps {} steps).registry = []

theorem registry_of_answered {steps : List LookupStep} (allowed : AllowsAll {} steps)
    (all : ∀ n key, .fetched n key ∈ seenAll {} steps → ∃ r order, .answer n r order ∈ steps) :
    (afterSteps {} steps).registry = [] := by
  have sound := sound_of_allowsAll sound_start allowed
  refine List.eq_nil_iff_forall_not_mem.mpr fun ⟨key, n⟩ entry => ?_
  have asked := sound.entries key n entry
  obtain ⟨r, order, given⟩ := all n key ((fetched_iff allowed n key).mpr ⟨.asked, asked⟩)
  obtain ⟨k, landed⟩ := (answered_iff_landed allowed n r).mp ⟨order, given⟩
  rw [asked] at landed
  cases landed

theorem registry_of_answer {steps : List LookupStep} {n : Nat} {r : LookupResult}
    {order : List String} (allowed : AllowsAll {} (steps ++ [.answer n r order])) :
    (∃ key, (key, n) ∈ (afterSteps {} steps).registry) ∧
      ∀ entry, entry ∈ (afterSteps {} (steps ++ [.answer n r order])).registry ↔
        entry ∈ (afterSteps {} steps).registry ∧ entry.2 ≠ n := by
  have ends := ends_of_allowsAll allowed
  have once := nodup_registry (allowsAll_append.mp allowed).1
  obtain ⟨⟨key, asked⟩, held⟩ := isLive_iff.mp ends.allowed.1
  have live : (afterSteps {} steps).IsLiveFor n key := ⟨asked, held⟩
  refine ⟨⟨key, ((isLiveFor_iff_mem_registry ends.sound).mp live).1⟩, fun entry => ?_⟩
  rw [afterSteps_append]
  change entry ∈ ((afterSteps {} steps).take (.answer n r order)).2.registry ↔ _
  rw [take_answer ends.sound.named asked r ends.allowed]
  exact mem_registry_land ends.sound once live r entry

theorem registry_of_bounded {past rest : List LookupStep} {a : LookupStep}
    (allowed : AllowsAll {} (past ++ a :: rest)) (launches : (afterSteps {} past).Launches a)
    (silent : ∀ n key, .fetched n key ∉ seenAll (afterSteps {} (past ++ [a])) rest) :
    (afterSteps {} (past ++ a :: rest)).registry.length ≤
      (afterSteps {} (past ++ [a])).liveFlights.length := by
  have cut : past ++ a :: rest = past ++ [a] ++ rest := by simp
  rw [cut] at allowed ⊢
  obtain ⟨first, later⟩ := allowsAll_append.mp allowed
  have fewer := registry_sublist_of_silent (sound_of_allowsAll sound_start first) later silent
  rw [← length_registry (nodup_registry first) (registry_of_launch first launches),
    afterSteps_append]
  exact fewer.length_le

/-- In every run the registry shows the live flights. Of those that have been left alone it keeps
entries until the next fetch and no longer. -/
theorem showsLive_of_allowsAll {steps : List LookupStep} (allowed : AllowsAll {} steps) :
    ShowsLive steps where
  live := fun n key live =>
    (sound_of_allowsAll sound_start allowed).registered n key live.1 live.2
  once := nodup_registry allowed
  swept := by
    rintro past a rfl launches
    exact registry_of_launch allowed launches
  answered := fun n r order next => registry_of_answer next
  late := by
    intro n r dead
    rw [answer, dead]
    rfl
  bounded := by
    rintro past a rest rfl launches silent
    exact registry_of_bounded allowed launches silent
  cleared := registry_of_answered allowed

/-- Two flights are left alone. The entry of the first goes with the next fetch, that of the second
stays, also when another flight is answered. Where nobody lets go the registry ends up empty, even
if one of two callers has not been polled with the answer. -/
theorem registry_beside_abandoned_flight :
    let key : LookupKey := ⟨⟨"a"⟩, .auto⟩
    let other : LookupKey := ⟨⟨"b"⟩, .auto⟩
    let r : LookupResult := .error ⟨⟨"a"⟩, .ingestNotFound⟩
    let called : List LookupStep :=
      [.call "first" key, .drop "first", .call "beside" other, .call "second" key]
    let left : List LookupStep := called ++ [.drop "beside"]
    let shared : List LookupStep :=
      [.call "first" key, .call "second" key, .answer 0 r ["second"]]
    AllowsAll {} left ∧ (afterSteps {} left).registry.lookup key = some 2 ∧
      (afterSteps {} left).isLive 1 = false ∧
      (other, 1) ∈ (afterSteps {} (left ++ [.answer 2 r ["second"]])).registry ∧
      (afterSteps {} left).registry.length ≤ (afterSteps {} called).liveFlights.length ∧
      AllowsAll {} shared ∧ (afterSteps {} shared).registry = [] := by
  intro key other r called left shared
  have allowed : AllowsAll {} left := by decide +kernel
  have answered : AllowsAll {} (left ++ [.answer 2 r ["second"]]) := by decide +kernel
  have together : AllowsAll {} shared := by decide +kernel
  have shows := showsLive_of_allowsAll allowed
  have live : (afterSteps {} left).IsLiveFor 2 key :=
    (isLiveFor_iff_mem_registry (sound_of_allowsAll sound_start allowed)).mpr (by decide +kernel)
  have stays : (other, 1) ∈ (afterSteps {} left).registry := by decide +kernel
  have launches : (afterSteps {} [.call "first" key, .drop "first", .call "beside" other]).Launches
      (.call "second" key) := ⟨2, key, by decide +kernel⟩
  have silent : seenAll (afterSteps {} called) [.drop "beside"] = [.done other.id] := by
    decide +kernel
  have few := shows.bounded _ _ [.drop "beside"] rfl launches fun n k made => by
    change .fetched n k ∈ seenAll (afterSteps {} called) [.drop "beside"] at made
    simp [silent] at made
  have seen : seenAll {} shared = [.started key.id, .fetched 0 key, .done key.id] := by
    decide +kernel
  have empty := (showsLive_of_allowsAll together).cleared fun n k made => by
    rw [seen] at made
    obtain ⟨rfl, rfl⟩ : n = 0 ∧ k = key := by simpa using made
    exact ⟨r, ["second"], by simp [shared]⟩
  exact ⟨allowed, shows.live 2 key live, by decide +kernel,
    ((shows.answered 2 r ["second"] answered).2 _).mpr ⟨stays, by decide⟩, few, together, empty⟩

end IngestViewer.SharedLookups
