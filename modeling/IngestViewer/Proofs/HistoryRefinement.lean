import IngestViewer.HistoryStore
import IngestViewer.Proofs.CanonicalText
import IngestViewer.Proofs.FirstOfEach

namespace IngestViewer

/-- In some states of its world, which setting does not leave, a slot refuses nothing and gives back
the text that it was set to last. -/
structure Slot.IsFaithful {σ ε : Type} (slot : Slot σ ε) (good : σ → Prop) : Prop where
  get_ok : ∀ s, good s → ∃ text, slot.get s = .ok text
  get_set : ∀ text s, good s →
    ∃ s', slot.set text s = (.ok (), s') ∧ slot.get s' = .ok (some text) ∧ good s'

theorem MemorySlot.isFaithful :
    MemorySlot.slot.IsFaithful fun m => m.getFails = false ∧ m.setFails = false where
  get_ok m h := ⟨m.text, by simp [slot, h]⟩
  get_set text m h := ⟨{ m with text := some text }, by simp [slot, h]⟩

/-- What is done with the history: it is listed, a record is put in front, or a new store takes the
place of the one before. -/
inductive HistoryCall where
  | list
  | record (r : IngestRecord)
  | reopen

namespace HistoryStore

variable {σ ε : Type}

/-- The world after a call. A store keeps nothing outside its slot, so a new one goes on from the
same world. -/
def after (slot : Slot σ ε) (s : σ) : HistoryCall → σ
  | .record r => (record slot r s).2
  | .list | .reopen => s

def afterAll (slot : Slot σ ε) (s : σ) (calls : List HistoryCall) : σ :=
  calls.foldl (after slot) s

def recordedIn (calls : List HistoryCall) : List IngestRecord :=
  (calls.filterMap fun
    | .record r => some r
    | _ => none).reverse

/-- The entries in the text of a slot: none if it is empty or cannot be read as a history. -/
def storedEntries : Option String → List RecentIngest
  | some text => (RecentIngest.listOfText? text).getD []
  | none => []

theorem load_eq (text : Option String) :
    load text = ⟨(firstOfEach (storedEntries text)).take RecentIngests.capacity⟩ := by
  cases text with
  | none => rfl
  | some text => rw [load, RecentIngests.ofText, RecentIngests.ofEntries_eq]; rfl

theorem isRead_of_mem_storedEntries {text : Option String} :
    ∀ e ∈ storedEntries text, e.ingest.status.IsRead := by
  intro e he
  cases text with
  | none => cases he
  | some text =>
    rw [storedEntries] at he
    cases read : RecentIngest.listOfText? text with
    | none => simp [read] at he
    | some es =>
      rw [read] at he
      exact RecentIngest.isRead_of_listIsReadFrom (.inl read) e he

/-- The text of a slot stands for a list of entries, of which it holds only so many. -/
structure Stands (text : Option String) (es : List RecentIngest) : Prop where
  loaded : load text = ⟨(firstOfEach es).take RecentIngests.capacity⟩
  read : ∀ e ∈ es, e.ingest.status.IsRead

theorem stands_storedEntries (text : Option String) : Stands text (storedEntries text) :=
  ⟨load_eq text, isRead_of_mem_storedEntries⟩

/-- Recording keeps the text in step with the whole list. -/
theorem stands_recorded {text : Option String} {es : List RecentIngest} (h : Stands text es)
    {r : IngestRecord} (read : r.status.IsRead) :
    Stands (some (recorded text r)) (.ofRecord r :: es) := by
  have all : ∀ e ∈ RecentIngest.ofRecord r :: es, e.ingest.status.IsRead :=
    List.forall_mem_cons.mpr ⟨read, h.read⟩
  let kept := (firstOfEach (.ofRecord r :: es)).take RecentIngests.capacity
  have pushed : (load text).record r = ⟨kept⟩ := by
    rw [h.loaded, RecentIngests.record, RecentIngests.pushFront_take]
  have keptRead : ∀ e ∈ kept, e.ingest.status.IsRead := fun e he =>
    all e ((firstOfEach_sublist _).subset (List.mem_of_mem_take he))
  refine ⟨?_, all⟩
  calc load (some (recorded text r))
      = .ofEntries ((RecentIngest.listOfText? (RecentIngest.listText kept)).getD []) := by
        rw [recorded, pushed]; rfl
    _ = .ofEntries kept := by rw [RecentIngest.read_listText keptRead]; rfl
    _ = ⟨kept⟩ := RecentIngests.ofEntries_of_isHistory (RecentIngests.isHistory_take_firstOfEach _)

theorem recordedIn_cons_record (r : IngestRecord) (calls : List HistoryCall) :
    recordedIn (.record r :: calls) = recordedIn calls ++ [r] := by
  simp [recordedIn]

theorem record_of_isFaithful {slot : Slot σ ε} {good : σ → Prop} (faithful : slot.IsFaithful good)
    {s : σ} (hs : good s) {text : Option String} (now : slot.get s = .ok text)
    (r : IngestRecord) : ∃ s', record slot r s = (.ok (), s') ∧
      slot.get s' = .ok (some (recorded text r)) ∧ good s' := by
  obtain ⟨s', set, get, hs'⟩ := faithful.get_set (recorded text r) s hs
  exact ⟨s', by rw [record, now]; simp only [set], get, hs'⟩

/-- At each moment of a run the text of the slot stands for all that has been recorded, in front of
what there was at the start. -/
theorem stands_afterAll {slot : Slot σ ε} {good : σ → Prop} (faithful : slot.IsFaithful good)
    (calls : List HistoryCall) (read : ∀ r, .record r ∈ calls → r.status.IsRead) {s : σ}
    (hs : good s) {text : Option String} {es : List RecentIngest} (now : slot.get s = .ok text)
    (h : Stands text es) :
    good (afterAll slot s calls) ∧ ∃ text', slot.get (afterAll slot s calls) = .ok text' ∧
      Stands text' ((recordedIn calls).map .ofRecord ++ es) := by
  induction calls generalizing s text es with
  | nil => exact ⟨hs, text, now, h⟩
  | cons call calls ih =>
    have later : ∀ r, .record r ∈ calls → r.status.IsRead := fun r hr => read r (by simp [hr])
    cases call with
    | list => exact ih later hs now h
    | reopen => exact ih later hs now h
    | record r =>
      obtain ⟨s', set, get, hs'⟩ := record_of_isFaithful faithful hs now r
      have next := ih later hs' get (stands_recorded h (read r (by simp)))
      rw [recordedIn_cons_record]
      simpa [afterAll, after, set] using next

/-- An entry that has been kept of a recorded ingest shows the record as it was put down last. -/
theorem eq_ofRecord_of_mem_firstOfEach {rs : List IngestRecord} {es : List RecentIngest}
    {e : RecentIngest} (he : e ∈ firstOfEach (rs.map .ofRecord ++ es)) {r : IngestRecord}
    (last : rs.find? (·.id = e.ingestId) = some r) : e = .ofRecord r := by
  have first := find?_of_mem_firstOfEach he
  have found : (rs.map RecentIngest.ofRecord).find? (·.ingestId = e.ingestId) =
      some (.ofRecord r) := by
    rw [List.find?_map]
    exact congrArg (Option.map _) last
  rw [List.find?_append, found] at first
  exact (Option.some.inj first).symm

/-- Whatever stood in the slot at first, after any calls the store lists the first ten of all
entries, the latest first, of which those are left out whose ingest has a later one. -/
theorem list_eq_take_firstOfEach {slot : Slot σ ε} {good : σ → Prop}
    (faithful : slot.IsFaithful good) {s : σ} (hs : good s) {text : Option String}
    (start : slot.get s = .ok text) (calls : List HistoryCall)
    (read : ∀ r, .record r ∈ calls → r.status.IsRead) :
    ∃ es, list slot (afterAll slot s calls) = .ok es ∧
      es = (firstOfEach ((recordedIn calls).map .ofRecord ++ storedEntries text)).take 10 ∧
      es.length ≤ 10 ∧ (es.map (·.ingestId)).Nodup ∧
      es.Sublist ((recordedIn calls).map .ofRecord ++ storedEntries text) ∧
      (∀ e ∈ es, ∀ r, (recordedIn calls).find? (·.id = e.ingestId) = some r → e = .ofRecord r) ∧
      ∀ r, (record slot r (afterAll slot s calls)).1 = .ok () := by
  obtain ⟨still, text', now, h⟩ :=
    stands_afterAll faithful calls read hs start (stands_storedEntries text)
  have all := firstOfEach_sublist ((recordedIn calls).map .ofRecord ++ storedEntries text)
  obtain ⟨nodup, short⟩ := RecentIngests.isHistory_take_firstOfEach
    ((recordedIn calls).map .ofRecord ++ storedEntries text)
  refine ⟨_, ?_, rfl, short, nodup, (List.take_sublist _ _).trans all, ?_, fun r => ?_⟩
  · rw [list, now]
    simp only [h.loaded, RecentIngests.capacity]
  · intro e he r last
    exact eq_ofRecord_of_mem_firstOfEach (List.mem_of_mem_take he) last
  · obtain ⟨s', set, -⟩ := record_of_isFaithful faithful still now r
    rw [set]

/-- A slot with an entry written twice, and the same ingest recorded twice more. -/
theorem list_after_repetition :
    oddRecord.status.IsRead ∧
    list MemorySlot.slot (afterAll MemorySlot.slot
      { text := some (RecentIngest.listText [.ofRecord oddRecord, .ofRecord oddRecord]) }
      [.list, .record oddRecord, .reopen, .record oddRecord]) = .ok [.ofRecord oddRecord] := by
  have read : oddRecord.status.IsRead := by unfold IngestStatus.IsRead; decide
  have stored : storedEntries
      (some (RecentIngest.listText [.ofRecord oddRecord, .ofRecord oddRecord])) =
        [.ofRecord oddRecord, .ofRecord oddRecord] := by
    rw [storedEntries, RecentIngest.read_listText (by simpa [RecentIngest.ofRecord] using read)]
    rfl
  have start (text : String) : MemorySlot.slot.get { text := some text } = .ok (some text) := rfl
  obtain ⟨es, listed, value, -⟩ := list_eq_take_firstOfEach MemorySlot.isFaithful
    ⟨rfl, rfl⟩ (start (RecentIngest.listText [.ofRecord oddRecord, .ofRecord oddRecord]))
    [.list, .record oddRecord, .reopen, .record oddRecord] (by simpa using read)
  refine ⟨read, listed.trans (congrArg Except.ok (value.trans ?_))⟩
  rw [stored]
  simp [recordedIn, firstOfEach]

end HistoryStore

end IngestViewer
