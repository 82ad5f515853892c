import IngestViewer.Program
import IngestViewer.Proofs.DamagedHistory
import IngestViewer.Proofs.EnvironmentFallback

namespace IngestViewer

/-- What an observer was told, and whether it succeeded in what it did then. -/
structure Notification where
  place : Nat
  record : IngestRecord
  done : Bool
deriving DecidableEq, Repr

namespace Inspector

variable {σ : Type}

def noting (observer : Observer σ) (place : Nat) : Observer (σ × List Notification) :=
  fun r (s, log) =>
    let (done, s) := observer r s
    (done, s, log ++ [⟨place, r, done⟩])

/-- Observers that note what they are told, with their places from a number on. -/
def allNoting (place : Nat) (observers : List (Observer σ)) :
    List (Observer (σ × List Notification)) :=
  (observers.zipIdx place).map fun (observer, place) => noting observer place

def notifications (place : Nat) : List (Observer σ) → IngestRecord → σ → List Notification
  | [], _, _ => []
  | observer :: observers, r, s =>
    ⟨place, r, (observer r s).1⟩ :: notifications (place + 1) observers r (observer r s).2

/-- Observers that do the same, but succeed or fail as stated for their places. -/
def answering (pattern : Nat → Bool) (place : Nat) (observers : List (Observer σ)) :
    List (Observer σ) :=
  (observers.zipIdx place).map fun (observer, place) r s => (pattern place, (observer r s).2)

theorem notify_cons (observer : Observer σ) (observers : List (Observer σ)) (r : IngestRecord)
    (s : σ) : notify (observer :: observers) r s = notify observers r (observer r s).2 :=
  rfl

theorem notify_allNoting (place : Nat) (observers : List (Observer σ)) (r : IngestRecord) (s : σ)
    (log : List Notification) : notify (allNoting place observers) r (s, log) =
      (notify observers r s, log ++ notifications place observers r s) := by
  induction observers generalizing place s log with
  | nil => simp [allNoting, notify, notifications]
  | cons observer observers ih =>
    have first : allNoting place (observer :: observers) =
        noting observer place :: allNoting (place + 1) observers := rfl
    rw [first, notify_cons, notify_cons, notifications, noting, ih, List.append_assoc]
    rfl

/-- Each observer is told once, in its turn, whatever those before it answered. -/
theorem map_notifications (place : Nat) (observers : List (Observer σ)) (r : IngestRecord)
    (s : σ) :
    (notifications place observers r s).map (fun n => (n.place, n.record)) =
      (List.range' place observers.length).map fun place => (place, r) := by
  induction observers generalizing place s with
  | nil => rfl
  | cons observer observers ih =>
    rw [notifications, List.map_cons, ih, List.length_cons, List.range'_succ, List.map_cons]

theorem notify_answering (pattern : Nat → Bool) (place : Nat) (observers : List (Observer σ))
    (r : IngestRecord) (s : σ) :
    notify (answering pattern place observers) r s = notify observers r s := by
  induction observers generalizing place s with
  | nil => rfl
  | cons observer observers ih => exact ih (place + 1) (observer r s).2

variable (observers : List (Observer σ)) (f : TimeFormatter) (result : LookupResult) (s : σ)
  (c : Clock)

/-- What an inspection comes to and who is told, whatever the observers do. -/
structure Reports : Prop where
  /-- The view of a record is shown exactly if the lookup found the record. -/
  found : ∀ view, (inspect observers f result s c).1 = .found view ↔
    ∃ r, result = .ok r ∧ (IngestView.compose f r c).1 = view
  /-- The view of a failure is shown exactly if the lookup failed with it. -/
  failed : ∀ view, (inspect observers f result s c).1 = .failed view ↔
    ∃ e, result = .error e ∧ FailureView.ofFailure e = view
  /-- It makes no difference which observers fail. -/
  unmoved : ∀ pattern,
    inspect (answering pattern 0 observers) f result s c = inspect observers f result s c
  /-- All observers are told of a record that is found, each once and in order. -/
  told : ∀ r, result = .ok r → ∃ log : List Notification,
    (inspect (allNoting 0 observers) f result (s, []) c).2.1 = (notify observers r s, log) ∧
      log.map (fun n => (n.place, n.record)) =
        (List.range observers.length).map fun place => (place, r)
  /-- None is told of a failure. -/
  untold : ∀ e, result = .error e →
    (inspect (allNoting 0 observers) f result (s, []) c).2.1 = (s, [])

theorem reports : Reports observers f result s c where
  found view := by
    cases result with
    | ok r => simp [inspect, Inspection.ofResult]
    | error e => simp [inspect, Inspection.ofResult]
  failed view := by
    cases result with
    | ok r => simp [inspect, Inspection.ofResult]
    | error e => simp [inspect, Inspection.ofResult]
  unmoved pattern := by
    cases result with
    | ok r => simp only [inspect, notify_answering]
    | error e => rfl
  told r found := by
    subst found
    refine ⟨notifications 0 observers r s, ?_, ?_⟩
    · simp only [inspect, notify_allNoting, List.nil_append]
    · rw [map_notifications, List.range_eq_range']
  untold e failed := by
    subst failed
    rfl

end Inspector

namespace Gateway

variable {σ : Type} {endpoints : Endpoints} {network : Network σ} {id : IngestId}
  {r : IngestRecord}

theorem isRead_of_fetchFrom {e : Environment} {s : σ}
    (h : (fetchFrom endpoints network id e s).1 = .ok r) : r.status.IsRead := by
  obtain ⟨-, result⟩ | ⟨url, -, -, result⟩ := fetchFrom_eq endpoints network id e s
  · rw [result] at h
    cases h
  · rw [result] at h
    cases reply : (network url s).1 with
    | timedOut => rw [reply] at h; cases h
    | unreachable => rw [reply] at h; cases h
    | broken => rw [reply] at h; cases h
    | answered status body =>
      rw [reply] at h
      simp only [resultOf] at h
      split at h
      · split at h
        next read =>
          cases h
          exact IngestRecord.isRead_of_isReadFrom (.inr (.inr ⟨e, read⟩))
        next => cases h
      · cases h

theorem isRead_of_fetch {selector : Selector} {s : σ}
    (h : (fetch endpoints network id selector s).1 = .ok r) : r.status.IsRead := by
  rw [fetch] at h
  generalize selector.candidates = es at h
  induction es generalizing s with
  | nil => cases h
  | cons e es ih =>
    rw [fetchAll_cons] at h
    split at h
    · exact ih h
    · exact isRead_of_fetchFrom h

end Gateway

namespace HistoryStore

variable {store : FileStore} {d : Disk} {r : IngestRecord}

/-- Wherever recording does not fail, the record can be listed. -/
theorem list_of_record (tree : d.IsTree) (read : r.status.IsRead)
    (done : (record store.historySlot r d).1 = .ok ()) :
    ∃ rest, list store.historySlot (record store.historySlot r d).2 =
      .ok (.ofRecord r :: rest) := by
  have valid : FileStore.isKey key = true := by decide +kernel
  rw [record] at done ⊢
  split at done
  next text now =>
    have sets := FileStore.sets_of_run (s := store) tree valid (fun _ => none) (recorded text r)
    have ran : store.set d key (recorded text r) =
        FileStore.run (fun _ => none) d (store.setSteps key (recorded text r)) := by
      rw [FileStore.set, FileStore.setAmid, if_pos valid]
    rw [← ran] at sets
    split at done
    next d' set =>
      have set : store.set d key (recorded text r) = (.ok (), d') := set
      rw [set] at sets
      exact list_of_recorded read sets.own.2
    next => cases done
  next => cases done

end HistoryStore

namespace Services

variable {σ : Type} (sv : Services σ) (id : IngestId) (selector : Selector) (c : Clock) (d : Disk)
  (n : σ)

def lookup : LookupResult := (Gateway.fetch sv.endpoints sv.network id selector n).1

/-- What a lookup does to the history and to the exit status. -/
structure Settles : Prop where
  /-- A lookup that fails leaves the disk as it was. -/
  untouched : ∀ e, sv.lookup id selector n = .error e → (sv.inspect id selector c d n).2.1 = d
  /-- A record that is found stands first in the history if recording it does not fail. -/
  first : ∀ r, sv.lookup id selector n = .ok r → d.IsTree →
    (HistoryStore.record sv.history.historySlot r d).1 = .ok () →
    ∃ rest, sv.recent (sv.inspect id selector c d n).2.1 = .ok (.ofRecord r :: rest)
  /-- It does not fail where the store takes files and the history is none or a text. -/
  taken : ∀ r text, sv.history.IsWritable d HistoryStore.key →
    sv.history.get d HistoryStore.key = .ok text →
    (HistoryStore.record sv.history.historySlot r d).1 = .ok ()
  /-- The status tells whether a record was found, in either format and whatever became of the
  history. -/
  success : ∀ json, (Program.perform sv c (.lookup id selector json) d n).1.status = .success ↔
    ∃ r, sv.lookup id selector n = .ok r
  failure : ∀ json, (Program.perform sv c (.lookup id selector json) d n).1.status = .failure ↔
    ∃ e, sv.lookup id selector n = .error e

theorem inspect_eq : sv.inspect id selector c d n =
    let inspected := Inspector.inspect [historyObserver sv.history.historySlot] sv.formatter
      (sv.lookup id selector n) d c
    (inspected.1, inspected.2.1, (Gateway.fetch sv.endpoints sv.network id selector n).2) :=
  rfl

theorem historyObserver_eq {σ ε : Type} (slot : Slot σ ε) (r : IngestRecord) (s : σ) :
    historyObserver slot r s =
      ((HistoryStore.record slot r s).1.isOk, (HistoryStore.record slot r s).2) := by
  rw [historyObserver]
  split
  next recorded => rw [recorded]; rfl
  next recorded => rw [recorded]; rfl

theorem status_perform (json : Bool) :
    (Program.perform sv c (.lookup id selector json) d n).1.status =
      match sv.lookup id selector n with
      | .ok _ => .success
      | .error _ => .failure := by
  have ofResult : ∀ result : LookupResult,
      (Outcome.ofInspection json (Inspection.ofResult sv.formatter result c).1).status =
        match result with
        | .ok _ => .success
        | .error _ => .failure := by
    intro result
    cases result <;> rfl
  exact ofResult (sv.lookup id selector n)

theorem settles : Settles sv id selector c d n where
  untouched e failed := by
    rw [inspect_eq, failed]
    rfl
  first r found tree done := by
    have read := Gateway.isRead_of_fetch found
    have disk : (sv.inspect id selector c d n).2.1 =
        (HistoryStore.record sv.history.historySlot r d).2 := by
      rw [inspect_eq, found]
      exact congrArg Prod.snd (historyObserver_eq _ r d)
    rw [disk]
    exact HistoryStore.list_of_record tree read done
  taken r text writable now := by
    obtain ⟨d', done, -⟩ := HistoryStore.record_of_isFaithful
      sv.history.historySlot_isFaithful ⟨writable, text, now⟩ now r
    rw [done]
  success json := by
    rw [status_perform]
    cases sv.lookup id selector n <;> simp
  failure json := by
    rw [status_perform]
    cases sv.lookup id selector n <;> simp

/-- Whatever a lookup ends with and whatever the observers make of it, the inspection tells the
result, all observers are told of a record and none of a failure; with the history for an observer,
a failure changes nothing, and the exit status tells whether a record was found. -/
theorem inspection_reports_and_settles {τ : Type} (observers : List (Observer τ))
    (f : TimeFormatter) (result : LookupResult) (s : τ) :
    Inspector.Reports observers f result s c ∧ Settles sv id selector c d n :=
  ⟨Inspector.reports observers f result s c, settles sv id selector c d n⟩

/-- Services whose network makes the same of every request. -/
def replying (reply : Reply) : Services Unit where
  endpoints :=
    { staging := { scheme := "http", host := some "[::1]", path := .segments ["staged"] }
      production := { scheme := "http", host := some "[::2]", path := .segments ["ingests"] } }
  network := fun _ n => (reply, n)
  history := { root := "store" }
  formatter := { registry := .builtin, tag := "en", zone := fun _ => 0 }

theorem lookup_of_replying {r : IngestRecord} (read : r.status.IsRead) :
    (replying (.answered 200 (Utf8.bytes r.text))).lookup ⟨"a"⟩ .auto () = .ok r := by
  have asked : ∀ reply, (Gateway.fetchFrom (replying reply).endpoints (replying reply).network ⟨"a"⟩
      .production ()).1 = Gateway.resultOf ⟨"a"⟩ .production reply := by
    intro reply
    have sent : Gateway.requests (replying reply).endpoints ⟨"a"⟩ .production =
        [{ (replying reply).endpoints.production with path := .segments ["ingests", "a"] }] := by
      simp only [replying]
      decide +kernel
    rw [Gateway.fetchFrom_of_requests _ _ _ sent rfl]
  have answer : Gateway.resultOf ⟨"a"⟩ .production (.answered 200 (Utf8.bytes r.text)) = .ok r := by
    simp only [Gateway.resultOf, Utf8.lossyText_bytes, IngestRecord.record_text read, if_true]
  rw [lookup, Gateway.fetch, Selector.candidates, Gateway.fetchAll_cons, asked, answer]
  simp only [Gateway.isAbsent, Bool.false_eq_true, if_false]
  rw [asked, answer]

/-- A disk with half a history takes the record all the same. -/
theorem found_beside_half_a_history :
    let sv := replying (.answered 200 (Utf8.bytes oddRecord.text))
    let d := HistoryStore.diskWith (Utf8.bytes "[1")
    let c := Clock.still ⟨0, 0⟩
    (∃ rest, sv.recent (sv.inspect ⟨"a"⟩ .auto c d ()).2.1 = .ok (.ofRecord oddRecord :: rest)) ∧
      (Program.perform sv c (.lookup ⟨"a"⟩ .auto true) d ()).1.status = .success := by
  intro sv d c
  have read : oddRecord.status.IsRead := by unfold IngestStatus.IsRead; decide
  have found : sv.lookup ⟨"a"⟩ .auto () = .ok oddRecord := lookup_of_replying read
  have writable := HistoryStore.isWritable_diskWith (Utf8.bytes "[1")
  have now : sv.history.get d HistoryStore.key = .ok (some "[1") := by decide +kernel
  obtain ⟨-, settled⟩ := inspection_reports_and_settles sv ⟨"a"⟩ .auto c d () [] sv.formatter
    (.ok oddRecord) ()
  have done := settled.taken oddRecord _ writable now
  exact ⟨settled.first oddRecord found writable.isTree done, (settled.success true).2 ⟨_, found⟩⟩

end Services

end IngestViewer
