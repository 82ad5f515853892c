import Mathlib.Control.Monad.Basic
import IngestViewer.Proofs.HistoryRefinement
import IngestViewer.Proofs.WritableStore

namespace IngestViewer

namespace IngestRecord

/-- A record with the status that its own is read as once it has been written. -/
def reread (r : IngestRecord) : IngestRecord :=
  { r with status := .ofText r.status.text }

theorem isRead_reread (r : IngestRecord) : r.reread.status.IsRead :=
  IngestStatus.isRead_ofText _

theorem reread_of_isRead {r : IngestRecord} (read : r.status.IsRead) : r.reread = r := by
  rw [reread, IngestStatus.ofText_text read]

theorem toJson_reread (r : IngestRecord) : r.reread.toJson = r.toJson := by
  simp [toJson, members, bagToJson, reread, IngestStatus.text_ofText]

end IngestRecord

namespace RecentIngests

theorem text_record (h : RecentIngests) (r : IngestRecord) :
    (h.record r).text = (Json.array (((RecentIngest.ofRecord r).toJson ::
      (h.entries.filter (·.ingestId ≠ r.id)).map RecentIngest.toJson).take capacity)).compact := by
  rw [text, RecentIngest.listText, RecentIngest.listToJson, record, pushFront, List.map_take]
  rfl

theorem text_record_reread (h : RecentIngests) (r : IngestRecord) :
    (h.record r.reread).text = (h.record r).text := by
  have same : (RecentIngest.ofRecord r.reread).toJson = (RecentIngest.ofRecord r).toJson := by
    simp only [RecentIngest.toJson, RecentIngest.ofRecord, r.toJson_reread]
    rfl
  rw [text_record, text_record, same]
  rfl

end RecentIngests

theorem FileStore.historySlot_isFaithful (s : FileStore) :
    s.historySlot.IsFaithful fun d =>
      s.IsWritable d HistoryStore.key ∧ ∃ text, s.get d HistoryStore.key = .ok text where
  get_ok _ h := h.2
  get_set text d h := by
    obtain ⟨d', set, writable, get⟩ := FileStore.set_of_isWritable h.1 (by decide +kernel) text
    exact ⟨d', set, get, writable, _, get⟩

namespace HistoryStore

variable {σ ε : Type} {slot : Slot σ ε} {s : σ}

theorem good_afterAll {good : σ → Prop} (faithful : slot.IsFaithful good) (hs : good s)
    (calls : List HistoryCall) : good (afterAll slot s calls) := by
  induction calls generalizing s with
  | nil => exact hs
  | cons call calls ih =>
    cases call with
    | list => exact ih hs
    | reopen => exact ih hs
    | record r =>
      obtain ⟨text, now⟩ := faithful.get_ok s hs
      obtain ⟨s', recorded, -, hs'⟩ := record_of_isFaithful faithful hs now r
      have same : after slot s (.record r) = s' := congrArg (·.2) recorded
      rw [← same] at hs'
      exact ih hs'

/-- What has been recorded stands first, if it can be read. -/
theorem list_of_recorded {s : σ} {text : Option String} {r : IngestRecord}
    (read : r.status.IsRead)
    (get : slot.get s = .ok (some (recorded text r))) :
    ∃ rest, list slot s = .ok (.ofRecord r :: rest) := by
  have stands := stands_recorded (stands_storedEntries text) read
  obtain ⟨rest, front⟩ : ∃ rest, (firstOfEach (.ofRecord r :: storedEntries text)).take
      RecentIngests.capacity = .ofRecord r :: rest := ⟨_, rfl⟩
  refine ⟨rest, ?_⟩
  rw [list, get]
  simp only [stands.loaded, front]

/-- From a text on, whatever it is, the history goes on: what it says is listed, nothing if it is no
history, and a record can be put in front. -/
structure GoesOn (slot : Slot σ ε) (s : σ) (text : Option String) : Prop where
  listed : list slot s = .ok ((firstOfEach (storedEntries text)).take 10)
  lost : text.bind RecentIngest.listOfText? = none → list slot s = .ok []
  first : ∀ r, ∃ s' rest, record slot r s = (.ok (), s') ∧
    list slot s' = .ok (.ofRecord r.reread :: rest) ∧ (r.status.IsRead → r.reread = r)
  further : ∀ calls, (∃ es, list slot (afterAll slot s calls) = .ok es) ∧
    ∀ r, (record slot r (afterAll slot s calls)).1 = .ok ()

theorem goesOn_of_isFaithful {good : σ → Prop} (faithful : slot.IsFaithful good) (hs : good s)
    {text : Option String} (now : slot.get s = .ok text) : GoesOn slot s text where
  listed := by
    rw [list, now]
    simp only [load_eq, RecentIngests.capacity]
  lost nothing := by
    have empty : storedEntries text = [] := by
      cases text with
      | none => rfl
      | some text => exact congrArg (·.getD []) nothing
    rw [list, now]
    simp only [load_eq, empty]
    rfl
  first r := by
    obtain ⟨s', done, get, -⟩ := record_of_isFaithful faithful hs now r
    have written : recorded text r = recorded text r.reread :=
      ((load text).text_record_reread r).symm
    rw [written] at get
    obtain ⟨rest, listed⟩ := list_of_recorded r.isRead_reread get
    exact ⟨s', rest, done, listed, IngestRecord.reread_of_isRead⟩
  further calls := by
    have still := good_afterAll faithful hs calls
    obtain ⟨text, now⟩ := faithful.get_ok _ still
    refine ⟨⟨_, by rw [list, now]⟩, fun r => ?_⟩
    obtain ⟨s', done, -⟩ := record_of_isFaithful faithful still now r
    rw [done]

/-- A fault ends every list and every record, and stays, as nothing is changed. -/
structure IsStuck (slot : Slot σ ε) (s : σ) (fault : HistoryFault ε) : Prop where
  listed : list slot s = .error fault
  recorded : ∀ r, record slot r s = (.error fault, s)
  further : ∀ calls, afterAll slot s calls = s

theorem isStuck_of_get {e : ε} (now : slot.get s = .error e) : IsStuck slot s (.unreadable e) := by
  have recorded : ∀ r, record slot r s = (.error (.unreadable e), s) := fun r => by
    rw [record, now]
  refine ⟨by rw [list, now], recorded, fun calls => ?_⟩
  induction calls with
  | nil => rfl
  | cons call calls ih =>
    have same : after slot s call = s := by
      cases call with
      | record r => exact congrArg (·.2) (recorded r)
      | list => rfl
      | reopen => rfl
    rw [afterAll, List.foldl_cons, same]
    exact ih

/-- The text in a file that may be missing, if its bytes are one. -/
def textIn? : Option (List UInt8) → Option (Option String)
  | some bytes => (Utf8.text? bytes).map some
  | none => some none

/-- A file with a text in it, or no file, never stops the history, whatever the text is. Bytes that
are no text stop it for good. -/
theorem goesOn_or_isStuck {store : FileStore} {d : Disk} (writable : store.IsWritable d key)
    {content : Option (List UInt8)}
    (there : d.node? (store.place ++ [FileStore.fileName key]) = content.map .file) :
    match textIn? content with
    | some text => GoesOn store.historySlot d text
    | none => IsStuck store.historySlot d (.unreadable (.readFile (store.filePath key))) := by
  have valid : FileStore.isKey key = true := by decide +kernel
  have usable := writable.usable_filePath valid
  have short := writable.short_fileName
  have read {text : Option String} (now : store.get d key = .ok text) :
      GoesOn store.historySlot d text :=
    goesOn_of_isFaithful store.historySlot_isFaithful ⟨writable, text, now⟩ now
  cases content with
  | none => exact read (FileStore.get_of_absent writable.hasFolder valid usable short there)
  | some bytes =>
    have get := FileStore.get_of_file writable.hasFolder valid usable short there
    cases decoded : Utf8.text? bytes with
    | some text =>
      rw [decoded] at get
      simp only [textIn?, decoded]
      exact read get
    | none =>
      rw [decoded] at get
      simp only [textIn?, decoded]
      exact isStuck_of_get get

/-- A disk with a store on it and nothing but some bytes for a history. -/
def diskWith (bytes : List UInt8) : Disk :=
  Disk.set ⟨[(["store"], .folder)]⟩ ["store", "recent-ingests.json"] (.file bytes)

theorem isWritable_diskWith (bytes : List UInt8) :
    FileStore.IsWritable { root := "store" } (diskWith bytes) key := by
  have tree : Disk.IsTree ⟨[(["store"], .folder)]⟩ := Disk.isTree_of_nodes (by decide)
  have bare : FileStore.IsWritable { root := "store" } ⟨[(["store"], .folder)]⟩ key :=
    ⟨tree, ⟨by decide +kernel, by decide +kernel⟩, by decide +kernel, by decide +kernel,
      by decide +kernel, by decide +kernel, by decide +kernel⟩
  have same := @Disk.isFolder_set_file ⟨[(["store"], .folder)]⟩ ["store", "recent-ingests.json"]
    (by decide) bytes
  have inside : Disk.isFolder ⟨[(["store"], .folder)]⟩ ["store"] = true := by decide
  exact bare.of_isFolder (Disk.isTree_set tree inside fun path h => (same path).trans h) same

theorem half_a_history_goesOn :
    let slot := FileStore.historySlot { root := "store" }
    let d := diskWith (Utf8.bytes "[1")
    FileStore.IsWritable { root := "store" } d key ∧ list slot d = .ok [] ∧
      ∃ d' rest, record slot oddRecord d = (.ok (), d') ∧
        list slot d' = .ok (.ofRecord oddRecord :: rest) := by
  intro slot d
  have writable := isWritable_diskWith (Utf8.bytes "[1")
  have there : d.node? (FileStore.place { root := "store" } ++ [FileStore.fileName key]) =
      (some (Utf8.bytes "[1")).map .file := by decide +kernel
  have goes := goesOn_or_isStuck writable there
  have decoded : textIn? (some (Utf8.bytes "[1")) = some (some "[1") := by decide +kernel
  rw [decoded] at goes
  have read : oddRecord.status.IsRead := by unfold IngestStatus.IsRead; decide
  obtain ⟨d', rest, done, front, same⟩ := goes.first oddRecord
  rw [same read] at front
  exact ⟨writable, goes.lost (by decide +kernel), d', rest, done, front⟩

/-- A byte that no text has: what is left of the history cannot be listed, nor replaced. -/
theorem undecodable_history_isStuck :
    let slot := FileStore.historySlot { root := "store" }
    let fault : HistoryFault FileStoreFault := .unreadable (.readFile "store/recent-ingests.json")
    FileStore.IsWritable { root := "store" } (diskWith [0xff]) key ∧
      list slot (diskWith [0xff]) = .error fault ∧
      (record slot oddRecord (diskWith [0xff])).1 = .error fault ∧
      list slot (record slot oddRecord (diskWith [0xff])).2 = .error fault := by
  intro slot fault
  exact ⟨isWritable_diskWith _, by decide +kernel, by decide +kernel, by decide +kernel⟩

end HistoryStore
end IngestViewer
