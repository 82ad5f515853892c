import IngestViewer.Proofs.LookupRuns

namespace IngestViewer

namespace Notice

def isStarted : Notice → Bool
  | started _ => true
  | _ => false

def isDone : Notice → Bool
  | done _ => true
  | _ => false

def isProgress (x : Notice) : Bool := x.isStarted || x.isDone

end Notice

namespace SharedLookups

def keyOf (s : SharedLookups) : LookupStep → Option LookupKey
  | .call _ key => some key
  | .answer n _ _ => s.flights[n]?.map (·.key)
  | .poll name | .drop name =>
    match s.callers.lookup name with
    | some (.waiting n) => s.flights[n]?.map (·.key)
    | _ => none

/-- What is seen, in a run, of the lookups of a key. -/
def logOf (key : LookupKey) (steps : List LookupStep) : List Notice :=
  seen (fun s a => s.keyOf a = some key) {} steps

/-- The flights that wait for their answers, while somebody waits for them. -/
def liveFlights (s : SharedLookups) : List Nat :=
  (List.range s.flights.length).filter s.isLive

/-- What a step does to the live flights, and what is seen of it. -/
inductive Turn (s : SharedLookups) (a : LookupStep) (report : StepReport) (t : SharedLookups) :
    Prop where
  /-- They stay as they are, and nothing is seen. -/
  | quiet (nothing : report.notices = []) (same : ∀ n key, t.IsLiveFor n key ↔ s.IsLiveFor n key)
  /-- A key that has none gets one, which is new, and its fetch is made. -/
  | start (key : LookupKey) (own : s.keyOf a = some key) (alone : ∀ n, ¬ s.IsLiveFor n key)
      (told : report.notices = [.started key.id, .fetched s.flights.length key])
      (more : ∀ n k, t.IsLiveFor n k ↔ s.IsLiveFor n k ∨ n = s.flights.length ∧ k = key)
  /-- One ends, as it is answered or the last one who waits for it lets go. -/
  | finish (n : Nat) (key : LookupKey) (own : s.keyOf a = some key) (was : s.IsLiveFor n key)
      (told : report.notices = [.done key.id])
      (fewer : ∀ m k, t.IsLiveFor m k ↔ s.IsLiveFor m k ∧ m ≠ n)
      (cause : (∃ r order, a = .answer n r order) ∨ ∃ name, a = .drop name ∧ s.waiters n = [name])

theorem isHeld_cons {s : SharedLookups} {name : String} {m n : Nat} :
    isHeld { s with callers := (name, .waiting m) :: s.callers } n = true ↔
      s.isHeld n = true ∨ n = m := by
  constructor
  · intro held
    by_cases same : n = m
    · exact .inr same
    · exact .inl (isHeld_of_more same held)
  · rintro (held | rfl)
    · obtain ⟨other, waits⟩ := isHeld_iff.mp held
      exact isHeld_iff.mpr ⟨other, List.mem_cons_of_mem _ waits⟩
    · exact isHeld_iff.mpr ⟨name, List.mem_cons_self⟩

theorem isHeld_filter {s : SharedLookups} {p : String × Caller → Bool} {n : Nat}
    (kept : ∀ name, (name, .waiting n) ∈ s.callers → p (name, .waiting n) = true) :
    isHeld { s with callers := s.callers.filter p } n = true ↔ s.isHeld n = true := by
  refine ⟨isHeld_of_fewer, fun held => ?_⟩
  obtain ⟨name, waits⟩ := isHeld_iff.mp held
  exact isHeld_iff.mpr ⟨name, List.mem_filter.mpr ⟨waits, kept name waits⟩⟩

theorem isHeld_forget_other {s : SharedLookups} (sound : s.Sound) {name : String} {m n : Nat}
    (waits : (name, .waiting n) ∈ s.callers) (apart : m ≠ n) :
    (s.forget name).isHeld m = true ↔ s.isHeld m = true := by
  refine isHeld_filter fun other waits' => ?_
  have different : other ≠ name := by
    rintro rfl
    exact apart (eq_of_waiting sound waits' waits)
  simpa using different

theorem waiters_of_left {s : SharedLookups} (sound : s.Sound) {name : String} {n : Nat}
    (waits : (name, .waiting n) ∈ s.callers) (free : (s.forget name).isHeld n = false) :
    s.waiters n = [name] := by
  have only : ∀ other ∈ s.waiters n, other = name := by
    intro other inside
    refine Decidable.not_not.mp fun apart => ?_
    rw [isHeld_forget apart (mem_waiters.mp inside)] at free
    cases free
  have nodup : (s.waiters n).Nodup := sound.named.sublist (List.filter_sublist.map _)
  have inside := mem_waiters.mpr waits
  cases names : s.waiters n with
  | nil =>
    rw [names] at inside
    cases inside
  | cons first others =>
    rw [names] at only nodup
    obtain ⟨once, -⟩ := List.nodup_cons.mp nodup
    obtain rfl : first = name := only first (by simp)
    have none : others = [] := by
      refine List.eq_nil_iff_forall_not_mem.mpr fun other more => ?_
      have same := only other (by simp [more])
      subst same
      exact once more
    rw [none]

theorem keyOf_of_waiting {s : SharedLookups} (sound : s.Sound) {name : String} {n : Nat}
    (waits : (name, .waiting n) ∈ s.callers) :
    s.keyOf (.drop name) = s.flights[n]?.map (·.key) := by
  simp only [keyOf, lookup_of_mem_of_nodup sound.named waits]

/-- Of the live flights only the one that a caller waits for can end when it leaves. -/
theorem isLiveFor_forget {s : SharedLookups} (sound : s.Sound) {name : String} {n : Nat}
    (waits : (name, .waiting n) ∈ s.callers) (m : Nat) (k : LookupKey) :
    (s.forget name).IsLiveFor m k ↔
      s.IsLiveFor m k ∧ (m = n → (s.forget name).isHeld n = true) := by
  by_cases same : m = n
  · subst same
    refine ⟨fun live => ⟨⟨live.1, isHeld_of_fewer live.2⟩, fun _ => live.2⟩, ?_⟩
    rintro ⟨live, held⟩
    exact ⟨live.1, held rfl⟩
  · have kept := isHeld_forget_other sound waits same
    exact ⟨fun live => ⟨⟨live.1, kept.mp live.2⟩, fun now => absurd now same⟩,
      fun live => ⟨live.1.1, kept.mpr live.1.2⟩⟩

theorem isLiveFor_forget_of_landed {s : SharedLookups} (sound : s.Sound) {name : String} {n : Nat}
    (waits : (name, .waiting n) ∈ s.callers) {key : LookupKey} {r : LookupResult}
    (landed : s.flights[n]? = some ⟨key, .landed r⟩) (m : Nat) (k : LookupKey) :
    (s.forget name).IsLiveFor m k ↔ s.IsLiveFor m k := by
  rw [isLiveFor_forget sound waits]
  refine ⟨And.left, fun live => ⟨live, ?_⟩⟩
  rintro rfl
  have asked := live.1
  rw [landed] at asked
  cases asked

theorem isLiveFor_launched {s : SharedLookups} {name : String} {key : LookupKey}
    {registry : List (LookupKey × Nat)} (n : Nat) (k : LookupKey) :
    IsLiveFor ⟨s.flights ++ [⟨key, .asked⟩], (name, .waiting s.flights.length) :: s.callers, registry⟩
      n k ↔ s.IsLiveFor n k ∨ n = s.flights.length ∧ k = key := by
  have held := @isHeld_cons s name s.flights.length n
  constructor
  · rintro ⟨asked, now⟩
    rcases getElem?_concat_eq_some.mp asked with old | ⟨latest, same⟩
    · rcases held.mp now with before | rfl
      · exact .inl ⟨old, before⟩
      · simp at old
    · cases same
      exact .inr ⟨latest, rfl⟩
  · rintro (live | ⟨latest, rfl⟩)
    · exact ⟨getElem?_concat_eq_some.mpr (.inl live.1), held.mpr (.inl live.2)⟩
    · exact ⟨getElem?_concat_eq_some.mpr (.inr ⟨latest, rfl⟩), held.mpr (.inr latest)⟩

theorem isLiveFor_answered {s : SharedLookups} (sound : s.Sound) {n : Nat} {key : LookupKey}
    (asked : s.flights[n]? = some ⟨key, .asked⟩) {r : LookupResult} {order : List String}
    (waiters : order ⊆ s.waiters n) (m : Nat) (k : LookupKey) :
    IsLiveFor { s.land n key r with callers := s.callers.filter (·.1 ∉ order) } m k ↔
      s.IsLiveFor m k ∧ m ≠ n := by
  by_cases same : m = n
  · subst same
    simp [IsLiveFor, flights_land_self asked r]
  · have kept : isHeld { s with callers := s.callers.filter (·.1 ∉ order) } m = true ↔
        s.isHeld m = true := by
      refine isHeld_filter fun other waits => ?_
      have outside : other ∉ order := fun inside =>
        same (eq_of_waiting sound waits (mem_waiters.mp (waiters inside)))
      simpa using outside
    have flights : (s.land n key r).flights[m]? = s.flights[m]? := flights_land_other same key r
    constructor
    · rintro ⟨asked, held⟩
      exact ⟨⟨flights.symm.trans asked, kept.mp held⟩, same⟩
    · rintro ⟨⟨asked, held⟩, -⟩
      exact ⟨flights.trans asked, kept.mpr held⟩

theorem joinable_eq_none_iff {s : SharedLookups} (sound : s.Sound) {key : LookupKey} :
    s.joinable? key = none ↔ ∀ n, ¬ s.IsLiveFor n key := by
  simp only [Option.eq_none_iff_forall_ne_some, ne_eq, joinable_iff_isLiveFor sound]

theorem joinable_congr {s t : SharedLookups} (sound : s.Sound) (after : t.Sound) {key : LookupKey}
    (same : ∀ n, t.IsLiveFor n key ↔ s.IsLiveFor n key) : t.joinable? key = s.joinable? key :=
  Option.ext fun n => by
    rw [joinable_iff_isLiveFor sound, joinable_iff_isLiveFor after, same]

theorem turn_of_ends {past : List LookupStep} {s t : SharedLookups} {a : LookupStep}
    {report : StepReport} (h : Ends past s a report t) : s.Turn a report t := by
  have sound := h.sound
  have allowed := h.allowed
  have effect := h.effect
  cases effect with
  | @joined name key n new asked held =>
    refine .quiet rfl fun m k => and_congr_right fun _ => isHeld_cons.trans ⟨?_, .inl⟩
    rintro (held | rfl)
    · assumption
    · exact held
  | @launched name key new alone =>
    exact .start key rfl ((joinable_eq_none_iff sound).mp alone) rfl isLiveFor_launched
  | @answered n key r order asked held =>
    have own : s.keyOf (.answer n r order) = some key := by simp [keyOf, asked]
    exact .finish n key own ⟨asked, held⟩ rfl (isLiveFor_answered sound asked allowed.2.2.2)
      (.inl ⟨r, order, rfl⟩)
  | kept => exact .quiet rfl fun _ _ => .rfl
  | told waits landed => exact .quiet rfl (isLiveFor_forget_of_landed sound waits landed)
  | @left name n key waits asked =>
    have live := isLiveFor_forget sound waits
    cases free : (s.forget name).isHeld n with
    | true =>
      refine .quiet (by simp) fun m k => ?_
      rw [live, free]
      simp
    | false =>
      have own : s.keyOf (.drop name) = some key := by simp [keyOf_of_waiting sound waits, asked]
      have held : s.isHeld n = true := isHeld_iff.mpr ⟨name, waits⟩
      refine .finish n key own ⟨asked, held⟩ (by simp) (fun m k => ?_)
        (.inr ⟨name, rfl, waiters_of_left sound waits free⟩)
      rw [live, free]
      simp
  | leftLanded waits landed => exact .quiet rfl (isLiveFor_forget_of_landed sound waits landed)

/-- A log of brackets, and the flight of the one that is still open. -/
inductive Bracketed (key : LookupKey) : List Notice → Option Nat → Prop where
  | nil : Bracketed key [] none
  | start {log : List Notice} {n : Nat} (closed : Bracketed key log none)
      (new : ∀ m k, .fetched m k ∈ log → m < n) :
      Bracketed key (log ++ [.started key.id, .fetched n key]) (some n)
  | done {log : List Notice} {n : Nat} (opened : Bracketed key log (some n)) :
      Bracketed key (log ++ [.done key.id]) none

theorem logOf_of_ends {past : List LookupStep} {s t : SharedLookups} {a : LookupStep}
    {report : StepReport} (h : Ends past s a report t) (key : LookupKey) :
    logOf key (past ++ [a]) =
      logOf key past ++ if s.keyOf a = some key then report.notices else [] := by
  rw [logOf, h.grows]
  simp [logOf]

/-- The log of a key is bracketed, and open for the flight that a new caller of the key joins. -/
theorem bracketed_logOf {steps : List LookupStep} (allowed : AllowsAll {} steps) (key : LookupKey) :
    Bracketed key (logOf key steps) ((afterSteps {} steps).joinable? key) := by
  refine invariant_of_run (P := fun past s => Bracketed key (logOf key past) (s.joinable? key))
    .nil ?_ allowed
  intro past s a report t ends ih
  have sound := ends.sound
  have after : t.Sound := sound_of_effect sound ends.effect
  rw [logOf_of_ends ends]
  cases turn_of_ends ends with
  | quiet nothing same =>
    rw [nothing, ite_self, List.append_nil, joinable_congr sound after fun n => same n key]
    exact ih
  | start k own alone told more =>
    -- the bracket of one key opens, and those of the others are as they were
    by_cases same : k = key
    · subst same
      have closed : s.joinable? k = none := (joinable_eq_none_iff sound).mpr alone
      have opened : t.joinable? k = some s.flights.length :=
        (joinable_iff_isLiveFor after).mpr ((more _ k).mpr (.inr ⟨rfl, rfl⟩))
      rw [closed] at ih
      rw [if_pos own, told, opened]
      refine .start ih fun m j made => ?_
      have first := (allowsAll_append.mp ends.run).1
      obtain ⟨stage, there⟩ := (fetched_iff first m j).mp (seen_subset _ _ _ made)
      rw [ends.before] at there
      exact (List.getElem?_eq_some_iff.mp there).1
    · have kept : ∀ n, t.IsLiveFor n key ↔ s.IsLiveFor n key := fun n => by
        simp [more, Ne.symm same]
      rw [own, if_neg (by simpa using same), List.append_nil, joinable_congr sound after kept]
      exact ih
  | finish n k own was told fewer cause =>
    have opened := (joinable_iff_isLiveFor sound).mpr was
    by_cases same : k = key
    · subst same
      have closed : t.joinable? k = none := by
        refine (joinable_eq_none_iff after).mpr fun m still => ?_
        obtain ⟨live, apart⟩ := (fewer m k).mp still
        rw [(joinable_iff_isLiveFor sound).mpr live] at opened
        exact apart (Option.some.inj opened)
      rw [opened] at ih
      rw [if_pos own, told, closed]
      exact .done ih
    · have kept : ∀ m, t.IsLiveFor m key ↔ s.IsLiveFor m key := by
        intro m
        refine (fewer m key).trans ⟨And.left, fun live => ⟨live, ?_⟩⟩
        rintro rfl
        have asked := was.1
        rw [live.1] at asked
        cases asked
        exact same rfl
      rw [own, if_neg (by simpa using same), List.append_nil, joinable_congr sound after kept]
      exact ih

def TakesTurns (id : IngestId) (log : List Notice) : Prop :=
  ∀ i x, log[i]? = some x → x = if i % 2 = 0 then .started id else .done id

theorem TakesTurns.concat {id : IngestId} {log : List Notice} (h : TakesTurns id log) {x : Notice}
    (next : x = if log.length % 2 = 0 then .started id else .done id) :
    TakesTurns id (log ++ [x]) := by
  intro i y found
  rcases getElem?_concat_eq_some.mp found with old | ⟨rfl, rfl⟩
  · exact h i y old
  · exact next

theorem Bracketed.takesTurns {key : LookupKey} {log : List Notice} {opened : Option Nat}
    (h : Bracketed key log opened) :
    TakesTurns key.id (log.filter Notice.isProgress) ∧
      (log.filter Notice.isProgress).length % 2 = if opened.isSome then 1 else 0 := by
  induction h with
  | nil => exact ⟨by rintro i x ⟨⟩, rfl⟩
  | @start log n _ _ ih =>
    obtain ⟨turns, even⟩ := ih
    have grown : (log ++ [Notice.started key.id, .fetched n key]).filter Notice.isProgress =
        log.filter Notice.isProgress ++ [.started key.id] := by
      rw [List.filter_append]
      rfl
    have even : (log.filter Notice.isProgress).length % 2 = 0 := even
    rw [grown, List.length_append]
    refine ⟨turns.concat (by rw [if_pos even]), ?_⟩
    simp only [List.length_singleton, Option.isSome_some, if_true]
    omega
  | @done log n _ ih =>
    obtain ⟨turns, odd⟩ := ih
    have grown : (log ++ [Notice.done key.id]).filter Notice.isProgress =
        log.filter Notice.isProgress ++ [.done key.id] := by
      rw [List.filter_append]
      rfl
    have odd : (log.filter Notice.isProgress).length % 2 = 1 := odd
    rw [grown, List.length_append]
    refine ⟨turns.concat (by rw [if_neg (by omega)]), ?_⟩
    simp only [List.length_singleton, Option.isSome_none, Bool.false_eq_true, if_false]
    omega

theorem mem_liveFlights {s : SharedLookups} {n : Nat} :
    n ∈ s.liveFlights ↔ ∃ key, s.IsLiveFor n key := by
  rw [liveFlights, List.mem_filter, List.mem_range, isLive_iff]
  constructor
  · rintro ⟨-, ⟨key, asked⟩, held⟩
    exact ⟨key, asked, held⟩
  · rintro ⟨key, asked, held⟩
    exact ⟨(List.getElem?_eq_some_iff.mp asked).1, ⟨key, asked⟩, held⟩

theorem nodup_liveFlights (s : SharedLookups) : s.liveFlights.Nodup :=
  List.nodup_range.sublist List.filter_sublist

theorem length_eq_of_same {l l' : List Nat} (h : l.Nodup) (h' : l'.Nodup)
    (same : ∀ n, n ∈ l ↔ n ∈ l') : l.length = l'.length :=
  ((List.perm_ext_iff_of_nodup h h').mpr same).length_eq

/-- There have been as many starts as ends, and one more for each live flight. -/
theorem balance_of_allowsAll {steps : List LookupStep} (allowed : AllowsAll {} steps) :
    (seenAll {} steps).countP Notice.isStarted =
      (seenAll {} steps).countP Notice.isDone + (afterSteps {} steps).liveFlights.length := by
  refine invariant_of_run (P := fun past s => (seenAll {} past).countP Notice.isStarted =
    (seenAll {} past).countP Notice.isDone + s.liveFlights.length) rfl ?_ allowed
  intro past s a report t ends ih
  rw [seenAll, ends.grows, ← seenAll, if_pos rfl, List.countP_append, List.countP_append, ih]
  cases turn_of_ends ends with
  | quiet nothing same =>
    have length := length_eq_of_same s.nodup_liveFlights t.nodup_liveFlights fun n => by
      simp only [mem_liveFlights, same]
    rw [nothing, length]
    simp
  | start key own alone told more =>
    have new : s.flights.length ∉ s.liveFlights := by
      intro inside
      obtain ⟨k, asked, -⟩ := mem_liveFlights.mp inside
      simp at asked
    have length := length_eq_of_same (List.nodup_cons.mpr ⟨new, s.nodup_liveFlights⟩)
      t.nodup_liveFlights fun n => by
        simp only [List.mem_cons, mem_liveFlights, more, exists_or]
        simp [or_comm]
    rw [told, ← length]
    simp [List.countP_cons, Notice.isStarted, Notice.isDone]
    omega
  | finish n key own was told fewer cause =>
    have gone : n ∉ t.liveFlights := by
      intro inside
      obtain ⟨k, live⟩ := mem_liveFlights.mp inside
      exact ((fewer n k).mp live).2 rfl
    have length := length_eq_of_same s.nodup_liveFlights
      (List.nodup_cons.mpr ⟨gone, t.nodup_liveFlights⟩) fun m => by
        simp only [List.mem_cons, mem_liveFlights, fewer]
        by_cases same : m = n
        · subst same
          simp only [true_or, iff_true]
          exact ⟨key, was⟩
        · simp [same]
    rw [told, length]
    simp [List.countP_cons, Notice.isStarted, Notice.isDone]
    omega

/-- What is seen of progress in a run. -/
structure Progress (steps : List LookupStep) : Prop where
  /-- The log of a key is a row of brackets, each around the fetch of one flight, of which one is
  open just when the key has a live flight. -/
  log : ∀ key, ∃ opened, Bracketed key (logOf key steps) opened ∧
    ∀ n, opened = some n ↔ (afterSteps {} steps).IsLiveFor n key
  turns : ∀ key, TakesTurns key.id ((logOf key steps).filter Notice.isProgress)
  /-- Nothing else is seen in a next step than the start of a flight with its fetch, or the end of
  one, for the key that the step is about. -/
  next : ∀ a, AllowsAll {} (steps ++ [a]) → (afterSteps {} steps).Turn a
    ((afterSteps {} steps).take a).1 (afterSteps {} (steps ++ [a]))
  ends : ∀ a n key, AllowsAll {} (steps ++ [a]) → (afterSteps {} steps).IsLiveFor n key →
    ¬ (afterSteps {} (steps ++ [a])).IsLiveFor n key →
    ((afterSteps {} steps).take a).1.notices = [.done key.id] ∧
      ((∃ r order, a = .answer n r order) ∨
        ∃ name, a = .drop name ∧ (afterSteps {} steps).waiters n = [name])
  balance : (seenAll {} steps).countP Notice.isStarted =
    (seenAll {} steps).countP Notice.isDone + (afterSteps {} steps).liveFlights.length
  idle : (∀ name n, (name, .waiting n) ∉ (afterSteps {} steps).callers) →
    (seenAll {} steps).countP Notice.isStarted = (seenAll {} steps).countP Notice.isDone

theorem Turn.ends {s t : SharedLookups} {a : LookupStep} {report : StepReport}
    (h : s.Turn a report t) {n : Nat} {key : LookupKey} (was : s.IsLiveFor n key)
    (gone : ¬ t.IsLiveFor n key) :
    report.notices = [.done key.id] ∧
      ((∃ r order, a = .answer n r order) ∨ ∃ name, a = .drop name ∧ s.waiters n = [name]) := by
  cases h with
  | quiet _ same => exact absurd ((same n key).mpr was) gone
  | start _ _ _ _ more => exact absurd ((more n key).mpr (.inl was)) gone
  | finish m k _ live told fewer cause =>
    obtain rfl : n = m := Decidable.not_not.mp fun apart => gone ((fewer n key).mpr ⟨was, apart⟩)
    have same := was.1
    rw [live.1] at same
    cases same
    exact ⟨told, cause⟩

/-- In every run the starts and ends of requests are brackets around single fetches, and those that
are open stand for the live flights. -/
theorem progress_of_allowsAll {steps : List LookupStep} (allowed : AllowsAll {} steps) :
    Progress steps := by
  have sound := sound_of_allowsAll sound_start allowed
  have balance := balance_of_allowsAll allowed
  refine ⟨fun key => ?_, fun key => (bracketed_logOf allowed key).takesTurns.1, fun a run => ?_,
    fun a n key run => ?_, balance, fun nobody => ?_⟩
  · exact ⟨_, bracketed_logOf allowed key, fun n => joinable_iff_isLiveFor sound⟩
  · exact turn_of_ends (ends_of_allowsAll run)
  · exact (turn_of_ends (ends_of_allowsAll run)).ends
  · have none : (afterSteps {} steps).liveFlights = [] := by
      refine List.eq_nil_iff_forall_not_mem.mpr fun n inside => ?_
      obtain ⟨key, -, held⟩ := mem_liveFlights.mp inside
      obtain ⟨name, waits⟩ := isHeld_iff.mp held
      exact nobody name n waits
    rw [balance, none]
    rfl

/-- Two flights of one key, of which the first is abandoned and the second fails, beside one of
another key that is still under way. -/
theorem progress_of_three_flights :
    let key : LookupKey := ⟨⟨"a"⟩, .auto⟩
    let other : LookupKey := ⟨⟨"a"⟩, .only .staging⟩
    let steps : List LookupStep :=
      [.call "first" key, .call "beside" other, .drop "first", .call "second" key,
        .answer 2 (.error ⟨⟨"a"⟩, .ingestNotFound⟩) ["second"]]
    AllowsAll {} steps ∧ TakesTurns key.id ((logOf key steps).filter Notice.isProgress) ∧
      logOf key steps = [.started ⟨"a"⟩, .fetched 0 key, .done ⟨"a"⟩, .started ⟨"a"⟩, .fetched 2 key,
        .done ⟨"a"⟩] ∧
      (seenAll {} steps).countP Notice.isStarted = (seenAll {} steps).countP Notice.isDone + 1 := by
  intro key other steps
  have allowed : AllowsAll {} steps := by decide +kernel
  have live : (afterSteps {} steps).liveFlights.length = 1 := by decide +kernel
  have progress := progress_of_allowsAll allowed
  have balance := progress.balance
  rw [live] at balance
  exact ⟨allowed, progress.turns key, by decide +kernel, balance⟩

end SharedLookups

end IngestViewer
