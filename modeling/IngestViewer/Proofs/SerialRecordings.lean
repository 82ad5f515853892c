import IngestViewer.Proofs.DamagedHistory
import IngestViewer.Proofs.RecordingLock

namespace IngestViewer

open HistoryStep (acquisitions writings arrivals)

namespace HistoryStep

/-- The recordings whose writing took place, in the order in which they got the lock. -/
def tookPlace (steps : List HistoryStep) : List Nat :=
  (acquisitions steps).filter (· ∈ writings steps)

def serialOrder (steps : List HistoryStep) : List IngestRecord :=
  (tookPlace steps).filterMap fun n => (arrivals steps)[n]?

end HistoryStep

open HistoryStep (tookPlace serialOrder)

namespace HistoryStore

variable {σ ε : Type} {slot : Slot σ ε}

/-- The world after records have been put in front of the history one after another. -/
def afterRecords (slot : Slot σ ε) (start : σ) (rs : List IngestRecord) : σ :=
  afterAll slot start (rs.map .record)

theorem afterRecords_concat (slot : Slot σ ε) (start : σ) (rs : List IngestRecord)
    (r : IngestRecord) :
    afterRecords slot start (rs ++ [r]) = (record slot r (afterRecords slot start rs)).2 := by
  rw [afterRecords, List.map_append, afterAll, List.foldl_append]
  rfl

theorem record_reread (slot : Slot σ ε) (r : IngestRecord) (s : σ) :
    record slot r.reread s = record slot r s := by
  have same (text : Option String) : recorded text r.reread = recorded text r :=
    (load text).text_record_reread r
  simp only [record, same]

theorem afterRecords_reread (slot : Slot σ ε) (start : σ) (rs : List IngestRecord) :
    afterRecords slot start (rs.map (·.reread)) = afterRecords slot start rs := by
  simp only [afterRecords, afterAll, List.map_map, List.foldl_map, Function.comp_apply, after,
    record_reread]

/-- What the history shows of some records that have been put in front of a text one after another:
each one, unless a later one of its ingest has taken its place or ten later ones have pushed it
out. -/
structure Keeps (es : List RecentIngest) (text : Option String) (rs : List IngestRecord) : Prop where
  listed : es = (firstOfEach
    ((rs.reverse.map fun r => .ofRecord r.reread) ++ storedEntries text)).take 10
  kept : ∀ (i : Nat) (r : IngestRecord), rs[i]? = some r → .ofRecord r.reread ∈ es ∨
    (∃ (j : Nat) (r' : IngestRecord), i < j ∧ rs[j]? = some r' ∧ r'.id = r.id) ∨
    es.length = 10 ∧ ∀ e ∈ es, ∃ (j : Nat) (r' : IngestRecord),
      i < j ∧ rs[j]? = some r' ∧ e = .ofRecord r'.reread

theorem keeps_take_firstOfEach (text : Option String) (rs : List IngestRecord) :
    Keeps ((firstOfEach
      ((rs.reverse.map fun r => .ofRecord r.reread) ++ storedEntries text)).take 10) text rs := by
  refine ⟨rfl, fun i r now => ?_⟩
  obtain ⟨bound, value⟩ := List.getElem?_eq_some_iff.mp now
  let newer := (rs.drop (i + 1)).reverse.map fun r => RecentIngest.ofRecord r.reread
  let older := ((rs.take i).reverse.map fun r => RecentIngest.ofRecord r.reread) ++
    storedEntries text
  have split : (rs.reverse.map fun r => RecentIngest.ofRecord r.reread) ++ storedEntries text =
      newer ++ .ofRecord r.reread :: older := by
    have parts : rs = rs.take i ++ r :: rs.drop (i + 1) := by
      rw [← value, List.getElem_cons_drop, List.take_append_drop]
    rw [congrArg List.reverse parts]
    simp [newer, older]
  have later : ∀ e ∈ newer, ∃ (j : Nat) (r' : IngestRecord),
      i < j ∧ rs[j]? = some r' ∧ e = .ofRecord r'.reread := by
    intro e he
    obtain ⟨r', hr', rfl⟩ := List.mem_map.mp he
    obtain ⟨j, place⟩ := List.mem_iff_getElem?.mp (List.mem_reverse.mp hr')
    rw [List.getElem?_drop] at place
    exact ⟨i + 1 + j, r', by omega, place, rfl⟩
  rw [split]
  by_cases first : (RecentIngest.ofRecord r.reread).ingestId ∈ newer.map (·.ingestId)
  · obtain ⟨e, he, same⟩ := List.mem_map.mp first
    obtain ⟨j, r', behind, place, rfl⟩ := later e he
    exact .inr (.inl ⟨j, r', behind, place, same⟩)
  · rcases mem_take_firstOfEach_or first 10 with inside | ⟨full, only⟩
    · exact .inl inside
    · exact .inr (.inr ⟨full, fun e he => later e (only he)⟩)

theorem keeps_of_isFaithful {good : σ → Prop} (faithful : slot.IsFaithful good) {start : σ}
    (hs : good start) {text : Option String} (now : slot.get start = .ok text)
    (rs : List IngestRecord) :
    ∃ es, list slot (afterRecords slot start rs) = .ok es ∧ Keeps es text rs := by
  have order : recordedIn ((rs.map (·.reread)).map .record) = (rs.map (·.reread)).reverse := by
    simp [recordedIn, List.filterMap_map, Function.comp_def]
  have read : ∀ r, .record r ∈ (rs.map (·.reread)).map HistoryCall.record → r.status.IsRead := by
    intro r hr
    obtain ⟨r', hr', same⟩ := List.mem_map.mp hr
    cases same
    obtain ⟨r, -, rfl⟩ := List.mem_map.mp hr'
    exact r.isRead_reread
  obtain ⟨-, text', get, stands⟩ := stands_afterAll faithful _ read hs now
    (stands_storedEntries text)
  rw [← afterRecords, afterRecords_reread] at get
  rw [order] at stands
  refine ⟨_, ?_, keeps_take_firstOfEach text rs⟩
  rw [list, get]
  simp only [stands.loaded, List.map_reverse, List.map_map, Function.comp_def,
    RecentIngests.capacity]

end HistoryStore

namespace SharedHistory

variable {σ ε : Type} {slot : Slot σ ε} {start : σ} {steps : List HistoryStep}
  {s t : SharedHistory σ ε}

def worldAt (slot : Slot σ ε) (start : σ) (steps : List HistoryStep) (k : Nat) : σ :=
  HistoryStore.afterRecords slot start ((serialOrder steps).take k)

theorem serialOrder_eq (ordered : Ordered steps s) :
    serialOrder steps = (writings steps).filterMap fun n => (arrivals steps)[n]? := by
  rw [serialOrder, tookPlace, ← ordered.order]

theorem getElem?_arrivals (sound : Sound slot steps s) (n : Nat) :
    (arrivals steps)[n]? = s.recordings[n]?.map (·.record) := by
  rw [← sound.arrived, List.getElem?_map]

/-- Later arrivals do not change what has taken place. -/
theorem filterMap_arrivals (sound : Sound slot steps s) (ordered : Ordered steps s)
    (more : List HistoryStep) :
    ((writings steps).filterMap fun n => (arrivals (steps ++ more))[n]?) = serialOrder steps := by
  rw [serialOrder_eq ordered]
  refine List.filterMap_congr fun n wrote => ?_
  have known := known_of_written ordered (HistoryStep.mem_writings.mp wrote)
  have bound : n < (arrivals steps).length := by
    rw [← sound.arrived, List.length_map]
    exact known
  rw [HistoryStep.arrivals_append, List.getElem?_append_left bound]

theorem serialOrder_of_silent (sound : Sound slot steps s) (ordered : Ordered steps s)
    {a : HistoryStep} (ordered' : Ordered (steps ++ [a]) t) (silent : writings [a] = []) :
    serialOrder (steps ++ [a]) = serialOrder steps := by
  rw [serialOrder_eq ordered', HistoryStep.writings_append, silent, List.append_nil,
    filterMap_arrivals sound ordered]

theorem serialOrder_of_write (sound : Sound slot steps s) (ordered : Ordered steps s)
    {n : Nat} (ordered' : Ordered (steps ++ [.write n]) t) {r : Recording ε}
    (now : s.recordings[n]? = some r) :
    serialOrder (steps ++ [.write n]) = serialOrder steps ++ [r.record] := by
  have here : (arrivals (steps ++ [.write n]))[n]? = some r.record := by
    rw [HistoryStep.arrivals_append]
    change (arrivals steps ++ [])[n]? = _
    rw [List.append_nil, getElem?_arrivals sound, now]
    rfl
  rw [serialOrder_eq ordered', HistoryStep.writings_append, List.filterMap_append,
    filterMap_arrivals sound ordered]
  change serialOrder steps ++ List.filterMap _ [n] = _
  rw [List.filterMap_cons_some here]
  rfl

/-- A step that writes puts its record behind the serial order and in front of the history; no
other step changes either. -/
theorem serialOrder_of_taken (run : Run slot start steps s) {a : HistoryStep}
    (taken : s.take? slot a = some t) :
    (serialOrder (steps ++ [a]) = serialOrder steps ∧ t.world = s.world) ∨
      ∃ r, serialOrder (steps ++ [a]) = serialOrder steps ++ [r] ∧
        t.world = (HistoryStore.record slot r s.world).2 := by
  obtain ⟨sound, ordered⟩ := sound_of_run run
  obtain ⟨-, ordered'⟩ := sound_of_run (run.step a taken)
  cases effect_of_take? taken with
  | @wrote n r text outcome world now done =>
    have recorded := done ((sound.fits n _ now).current text rfl)
    exact .inr ⟨r, serialOrder_of_write sound ordered ordered' now, (congrArg (·.2) recorded).symm⟩
  | _ => exact .inl ⟨serialOrder_of_silent sound ordered ordered' rfl, rfl⟩

theorem world_of_run (run : Run slot start steps s) :
    s.world = HistoryStore.afterRecords slot start (serialOrder steps) := by
  induction run with
  | here => rfl
  | step a run taken ih =>
    rcases serialOrder_of_taken run taken with ⟨order, world⟩ | ⟨r, order, world⟩
    · rw [order, world, ih]
    · rw [order, world, HistoryStore.afterRecords_concat, ← ih]

theorem serialOrder_of_append (run : Run slot start steps s) {a : HistoryStep}
    (taken : s.take? slot a = some t) : serialOrder steps <+: serialOrder (steps ++ [a]) := by
  rcases serialOrder_of_taken run taken with ⟨order, -⟩ | ⟨r, order, -⟩
  · exact ⟨[], by rw [List.append_nil, order]⟩
  · rw [order]
    exact List.prefix_append _ _

/-- What has taken place by then is the same world ever after. -/
theorem worldAt_of_earlier {steps steps' : List HistoryStep}
    (grows : serialOrder steps <+: serialOrder steps') {k : Nat}
    (h : k ≤ (serialOrder steps).length) :
    worldAt slot start steps' k = worldAt slot start steps k := by
  obtain ⟨more, same⟩ := grows
  rw [worldAt, worldAt, ← same, List.take_append_of_le_length h]

theorem worldAt_length (run : Run slot start steps s) :
    worldAt slot start steps (serialOrder steps).length = s.world := by
  rw [worldAt, List.take_length, world_of_run run]

/-- What has been listed is what the history was after so many records of the serial order, and
later lists show no fewer of them. -/
theorem listed_of_run (run : Run slot start steps s) :
    ∃ ks : List Nat, ks.Pairwise (· ≤ ·) ∧ (∀ k ∈ ks, k ≤ (serialOrder steps).length) ∧
      s.listed = ks.map fun k => HistoryStore.list slot (worldAt slot start steps k) := by
  induction run with
  | here => exact ⟨[], .nil, by simp, rfl⟩
  | @step steps s t a run taken ih =>
    obtain ⟨ks, sorted, bound, listed⟩ := ih
    have grows := serialOrder_of_append run taken
    have shown : s.listed =
        ks.map fun k => HistoryStore.list slot (worldAt slot start (steps ++ [a]) k) := by
      rw [listed]
      refine List.map_congr_left fun k hk => ?_
      rw [worldAt_of_earlier grows (bound k hk)]
    have bound' : ∀ k ∈ ks, k ≤ (serialOrder (steps ++ [a])).length := fun k hk =>
      Nat.le_trans (bound k hk) grows.length_le
    cases effect_of_take? taken with
    | listed =>
      refine ⟨ks ++ [(serialOrder steps).length], ?_, ?_, ?_⟩
      · refine List.pairwise_append.mpr ⟨sorted, List.pairwise_singleton _ _, ?_⟩
        intro k hk l hl
        rw [List.mem_singleton.mp hl]
        exact bound k hk
      · intro k hk
        rcases List.mem_append.mp hk with hk | hk
        · exact bound' k hk
        · rw [List.mem_singleton.mp hk]
          exact grows.length_le
      · rw [List.map_append, ← shown, List.map_singleton,
          worldAt_of_earlier grows (Nat.le_refl _), worldAt_length run]
    | _ => exact ⟨ks, sorted, bound', shown⟩

/-- What a recording has come to is what it comes to after so many records of the serial order: at
its own place there if it has written, and otherwise an error in reading. -/
def ComesTo (slot : Slot σ ε) (start : σ) (steps : List HistoryStep) (n : Nat) (r : IngestRecord)
    (outcome : Except (HistoryFault ε) Unit) : Prop :=
  ∃ k, k ≤ (serialOrder steps).length ∧
    (HistoryStore.record slot r (worldAt slot start steps k)).1 = outcome ∧
    (.write n ∈ steps → (serialOrder steps)[k]? = some r) ∧
    (.write n ∉ steps → ∃ e, outcome = .error (.unreadable e))

theorem comesTo_later (run : Run slot start steps s) {a : HistoryStep}
    (taken : s.take? slot a = some t) {n : Nat} (other : a ≠ .write n) {r : IngestRecord}
    {outcome : Except (HistoryFault ε) Unit} (h : ComesTo slot start steps n r outcome) :
    ComesTo slot start (steps ++ [a]) n r outcome := by
  obtain ⟨k, bound, same, wrote, unwritten⟩ := h
  have grows := serialOrder_of_append run taken
  have mem : .write n ∈ steps ++ [a] ↔ .write n ∈ steps :=
    ⟨fun h => mem_of_mem_concat h (Ne.symm other), List.mem_append_left _⟩
  refine ⟨k, Nat.le_trans bound grows.length_le, ?_, fun h => ?_, fun h => ?_⟩
  · rw [worldAt_of_earlier grows bound, same]
  · obtain ⟨more, whole⟩ := grows
    have place := wrote (mem.mp h)
    rw [← whole, List.getElem?_append_left (List.getElem?_eq_some_iff.mp place).1, place]
  · exact unwritten fun h' => h (mem.mpr h')

/-- A recording has come to something before a step, or comes to it by the step: it writes, or
fails to read. -/
theorem outcome_of_effect (sound : Sound slot steps s) {a : HistoryStep}
    (effect : Effect slot s a t) {n : Nat} {r : IngestRecord} {stage : RecordingStage ε}
    (now : t.recordings[n]? = some ⟨r, stage⟩) {outcome : Except (HistoryFault ε) Unit}
    (ended : stage.outcome? = some outcome) :
    (∃ old, s.recordings[n]? = some ⟨r, old⟩ ∧ old.outcome? = some outcome ∧ a ≠ .write n) ∨
    (HistoryStore.record slot r s.world).1 = outcome ∧ ∃ old, s.recordings[n]? = some ⟨r, old⟩ ∧
      (a = .write n ∨ a = .read n ∧ old = .locked ∧ ∃ e, outcome = .error (.unreadable e)) := by
  -- what the step does to a recording is told by its new stage
  have moved {m : Nat} {r' : IngestRecord} {before after : RecordingStage ε}
      (old : s.recordings[m]? = some ⟨r', before⟩)
      (now : (s.setStage m after).recordings[n]? = some ⟨r, stage⟩) :
      n = m ∧ r' = r ∧ after = stage ∨ n ≠ m ∧ s.recordings[n]? = some ⟨r, stage⟩ := by
    by_cases same : n = m
    · subst same
      cases (getElem?_setStage_self old after).symm.trans now
      exact .inl ⟨rfl, rfl, rfl⟩
    · rw [getElem?_setStage_other same] at now
      exact .inr ⟨same, now⟩
  cases effect with
  | arrived r' =>
    by_cases known : n < s.recordings.length
    · rw [List.getElem?_append_left known] at now
      exact .inl ⟨stage, now, ended, by simp⟩
    · rw [List.getElem?_append_right (by omega)] at now
      cases List.mem_singleton.mp (List.mem_of_getElem? now)
      cases ended
  | listed => exact .inl ⟨stage, now, ended, by simp⟩
  | acquired old free =>
    rcases moved old now with ⟨rfl, rfl, rfl⟩ | ⟨-, same⟩
    · cases ended
    · exact .inl ⟨stage, same, ended, by simp⟩
  | loaded old get =>
    rcases moved old now with ⟨rfl, rfl, rfl⟩ | ⟨-, same⟩
    · cases ended
    · exact .inl ⟨stage, same, ended, by simp⟩
  | unread old get =>
    rcases moved old now with ⟨rfl, rfl, rfl⟩ | ⟨-, same⟩
    · cases ended
      exact .inr ⟨by rw [HistoryStore.record, get], _, old, .inr ⟨rfl, rfl, _, rfl⟩⟩
    · exact .inl ⟨stage, same, ended, by simp⟩
  | @wrote m r' text outcome' world old done =>
    rcases moved old now with ⟨rfl, rfl, rfl⟩ | ⟨apart, same⟩
    · cases ended
      have recorded := done ((sound.fits n _ old).current text rfl)
      exact .inr ⟨congrArg (·.1) recorded, _, old, .inl rfl⟩
    · exact .inl ⟨stage, same, ended, by simpa using Ne.symm apart⟩
  | released old =>
    rcases moved old now with ⟨rfl, rfl, rfl⟩ | ⟨-, same⟩
    · exact .inl ⟨_, old, ended, by simp⟩
    · exact .inl ⟨stage, same, ended, by simp⟩
  | cancelled old going =>
    rcases moved old now with ⟨rfl, rfl, rfl⟩ | ⟨-, same⟩
    · cases ended
    · exact .inl ⟨stage, same, ended, by simp⟩

theorem comesTo_of_run (run : Run slot start steps s) (n : Nat) (r : IngestRecord)
    (stage : RecordingStage ε) (now : s.recordings[n]? = some ⟨r, stage⟩)
    (outcome : Except (HistoryFault ε) Unit) (ended : stage.outcome? = some outcome) :
    ComesTo slot start steps n r outcome := by
  induction run generalizing stage with
  | here => cases now
  | @step steps s t a run taken ih =>
    obtain ⟨sound, ordered⟩ := sound_of_run run
    have effect := effect_of_take? taken
    have grows := serialOrder_of_append run taken
    have latest : worldAt slot start (steps ++ [a]) (serialOrder steps).length = s.world := by
      rw [worldAt_of_earlier grows (Nat.le_refl _), worldAt_length run]
    rcases outcome_of_effect sound effect now ended with
      ⟨old, before, was, other⟩ | ⟨same, old, before, rfl | ⟨rfl, rfl, failed⟩⟩
    · exact comesTo_later run taken other (ih old before was)
    · obtain ⟨-, ordered'⟩ := sound_of_run (run.step _ taken)
      have order := serialOrder_of_write sound ordered ordered' before
      refine ⟨(serialOrder steps).length, grows.length_le, by rw [latest, same], fun _ => ?_,
        fun unwritten => absurd (by simp) unwritten⟩
      rw [order]
      exact List.getElem?_concat_length
    · have unwritten : .write n ∉ steps ++ [.read n] := fun wrote => by
        cases (sound.fits n _ before).written (mem_of_mem_concat wrote nofun)
      exact ⟨(serialOrder steps).length, grows.length_le, by rw [latest, same],
        fun wrote => absurd wrote unwritten, fun _ => failed⟩

/-- What recordings that share a history come to, whatever the order of their steps. -/
structure Serialises (slot : Slot σ ε) (start : σ) (steps : List HistoryStep)
    (s : SharedHistory σ ε) : Prop where
  /-- Recordings write in the order in which they get the lock. -/
  order : writings steps = tookPlace steps
  /-- The slot is left as the recordings that have written leave it one after another. -/
  world : s.world = HistoryStore.afterRecords slot start (serialOrder steps)
  /-- Each list is the history as it stood after some of them, and no list goes back behind one
  before it. -/
  listed : ∃ ks : List Nat, ks.Pairwise (· ≤ ·) ∧ (∀ k ∈ ks, k ≤ (serialOrder steps).length) ∧
    s.listed = ks.map fun k => HistoryStore.list slot (worldAt slot start steps k)
  /-- A recording comes to what it comes to at its place among them. -/
  outcomes : ∀ (n : Nat) (r : IngestRecord) (stage : RecordingStage ε),
    s.recordings[n]? = some ⟨r, stage⟩ → ∀ outcome, stage.outcome? = some outcome →
      ComesTo slot start steps n r outcome
  /-- Where the slot does not fail, a recording that is over and not cancelled has succeeded, and
  only a later one of the same ingest or ten later ones take it out of the history. -/
  keeps : ∀ (good : σ → Prop) (text : Option String), slot.IsFaithful good → good start →
    slot.get start = .ok text →
      (∀ (n : Nat) (r : IngestRecord) (stage : RecordingStage ε),
        s.recordings[n]? = some ⟨r, stage⟩ → ∀ outcome, stage.outcome? = some outcome →
          outcome = .ok () ∧ ∃ k : Nat, (serialOrder steps)[k]? = some r) ∧
      ∃ es, HistoryStore.list slot s.world = .ok es ∧
        HistoryStore.Keeps es text (serialOrder steps)
  /-- Who holds the lock can go on, and who waits can get it as soon as it is free. -/
  goesOn : (∀ n, s.lock = some n →
      ∃ a ∈ [HistoryStep.read n, .write n, .release n], (s.take? slot a).isSome) ∧
    ∀ (n : Nat) (r : IngestRecord), s.recordings[n]? = some ⟨r, .waiting⟩ → s.lock = none →
      (s.take? slot (.acquire n)).isSome

theorem ok_of_comesTo {good : σ → Prop} (faithful : slot.IsFaithful good) (hs : good start)
    {n : Nat} {r : IngestRecord} {outcome : Except (HistoryFault ε) Unit}
    (h : ComesTo slot start steps n r outcome) :
    outcome = .ok () ∧ ∃ k : Nat, (serialOrder steps)[k]? = some r := by
  obtain ⟨k, -, same, wrote, unwritten⟩ := h
  have still : good (worldAt slot start steps k) := HistoryStore.good_afterAll faithful hs _
  obtain ⟨text, now⟩ := faithful.get_ok _ still
  obtain ⟨world, done, -⟩ := HistoryStore.record_of_isFaithful faithful still now r
  rw [done] at same
  subst same
  refine ⟨rfl, k, wrote ?_⟩
  by_contra absent
  obtain ⟨e, failed⟩ := unwritten absent
  cases failed

/-- The holder of the lock is between reading and letting go. -/
theorem step_of_holder (sound : Sound slot steps s) {n : Nat} (held : s.lock = some n) :
    ∃ a ∈ [HistoryStep.read n, .write n, .release n], (s.take? slot a).isSome := by
  obtain ⟨⟨r, stage⟩, now⟩ : ∃ r, s.recordings[n]? = some r :=
    ⟨_, List.getElem?_eq_getElem (sound.held n held)⟩
  have holds := (sound.fits n _ now).holder.mpr held
  cases stage with
  | locked =>
    refine ⟨.read n, by simp, ?_⟩
    simp only [take?, now]
    split <;> rfl
  | loaded text =>
    refine ⟨.write n, by simp, ?_⟩
    simp only [take?, now]
    split <;> rfl
  | finished outcome => exact ⟨.release n, by simp, by simp [take?, now]⟩
  | waiting | ended _ | cancelled => cases holds

/-- Whatever the steps of recordings and lists and their order, recordings that share a history
serialise. -/
theorem serialises_of_run (run : Run slot start steps s) : Serialises slot start steps s := by
  obtain ⟨sound, ordered⟩ := sound_of_run run
  have outcomes := comesTo_of_run run
  constructor
  case order => exact ordered.order
  case world => exact world_of_run run
  case listed => exact listed_of_run run
  case outcomes => exact outcomes
  case keeps =>
    intro good text faithful hs now
    refine ⟨fun n r stage here outcome ended => ?_, ?_⟩
    · exact ok_of_comesTo faithful hs (outcomes n r stage here outcome ended)
    · rw [world_of_run run]
      exact HistoryStore.keeps_of_isFaithful faithful hs now (serialOrder steps)
  case goesOn =>
    refine ⟨fun n held => step_of_holder sound held, fun n r now free => ?_⟩
    simp [take?, now, free]

def takeAll? (slot : Slot σ ε) (s : SharedHistory σ ε) :
    List HistoryStep → Option (SharedHistory σ ε)
  | [] => some s
  | a :: steps => (s.take? slot a).bind fun t => t.takeAll? slot steps

theorem run_of_takeAll? (run : Run slot start steps s) {more : List HistoryStep}
    (taken : s.takeAll? slot more = some t) : Run slot start (steps ++ more) t := by
  induction more generalizing steps s with
  | nil =>
    cases taken
    rw [List.append_nil]
    exact run
  | cons a more ih =>
    obtain ⟨u, first, rest⟩ := Option.bind_eq_some_iff.mp taken
    rw [List.append_cons]
    exact ih (run.step a first) rest

/-- Of three recordings the one that gets the lock first is cancelled before it writes, and the
next one when it has written. -/
theorem list_amid_cancellations :
    let second : IngestRecord := { oddRecord with id := ⟨"b"⟩ }
    let third : IngestRecord := { oddRecord with id := ⟨"c"⟩ }
    let steps : List HistoryStep := [.arrive oddRecord, .arrive second, .acquire 1, .read 1,
      .cancel 1, .acquire 0, .arrive third, .read 0, .list, .write 0, .cancel 0, .acquire 2, .read 2,
      .write 2, .release 2]
    ∃ s, Run MemorySlot.slot {} steps s ∧ serialOrder steps = [oddRecord, third] ∧
      HistoryStore.list MemorySlot.slot s.world = .ok [.ofRecord third, .ofRecord oddRecord] := by
  intro second third steps
  have order : serialOrder steps = [oddRecord, third] := rfl
  obtain ⟨s, taken⟩ : ∃ s, takeAll? MemorySlot.slot { world := {} } steps = some s := ⟨_, rfl⟩
  have run : Run MemorySlot.slot {} steps s := run_of_takeAll? .here taken
  have serial := serialises_of_run run
  have start : MemorySlot.slot.get {} = .ok none := rfl
  obtain ⟨-, es, listed, keeps⟩ := serial.keeps _ none MemorySlot.isFaithful ⟨rfl, rfl⟩ start
  have read : oddRecord.status.IsRead := by unfold IngestStatus.IsRead; decide
  have same : oddRecord.reread = oddRecord := IngestRecord.reread_of_isRead read
  have sameThird : third.reread = third := IngestRecord.reread_of_isRead read
  refine ⟨s, run, order, ?_⟩
  rw [listed, keeps.listed, order]
  simp only [List.reverse_cons, List.reverse_nil, List.nil_append, List.cons_append, List.map_cons,
    List.map_nil, same, sameThird]
  rfl

end SharedHistory

end IngestViewer
