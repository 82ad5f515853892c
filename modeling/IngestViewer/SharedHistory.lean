import IngestViewer.HistoryStore

namespace IngestViewer

/-- How far a recording has got. From `locked` to `finished` it holds the lock that recordings
share. -/
inductive RecordingStage (ε : Type) where
  | waiting
  | locked
  | loaded (text : Option String)
  | finished (outcome : Except (HistoryFault ε) Unit)
  | ended (outcome : Except (HistoryFault ε) Unit)
  | cancelled

/-- A call that puts a record in front of the history. -/
structure Recording (ε : Type) where
  record : IngestRecord
  stage : RecordingStage ε

/-- What happens to a history that several calls work on. Recordings are numbered in the order in
which they arrive; listing takes one step and asks for no lock. -/
inductive HistoryStep where
  | arrive (r : IngestRecord)
  | acquire (n : Nat)
  | read (n : Nat)
  | write (n : Nat)
  | release (n : Nat)
  | cancel (n : Nat)
  | list
deriving DecidableEq

/-- A history with the recordings that work on it, the number of the one that holds the lock, and
what has been listed, the first list first. -/
structure SharedHistory (σ ε : Type) where
  world : σ
  recordings : List (Recording ε) := []
  lock : Option Nat := none
  listed : List (Except (HistoryFault ε) (List RecentIngest)) := []

namespace RecordingStage

variable {ε : Type}

def holdsLock : RecordingStage ε → Bool
  | locked | loaded _ | finished _ => true
  | waiting | ended _ | cancelled => false

def isOver : RecordingStage ε → Bool
  | ended _ | cancelled => true
  | _ => false

/-- What the call has come to, be it that it has not yet let go of the lock. -/
def outcome? : RecordingStage ε → Option (Except (HistoryFault ε) Unit)
  | finished outcome | ended outcome => some outcome
  | _ => none

end RecordingStage

namespace SharedHistory

variable {σ ε : Type}

def setStage (s : SharedHistory σ ε) (n : Nat) (stage : RecordingStage ε) : SharedHistory σ ε :=
  { s with recordings := s.recordings.modify n fun r => { r with stage } }

/-- The state after a step, if the step can be taken. A call that is cancelled lets go of the
lock. -/
def take? (slot : Slot σ ε) (s : SharedHistory σ ε) : HistoryStep → Option (SharedHistory σ ε)
  | .arrive r => some { s with recordings := s.recordings ++ [⟨r, .waiting⟩] }
  | .acquire n =>
    match s.recordings[n]?, s.lock with
    | some ⟨_, .waiting⟩, none => some { s.setStage n .locked with lock := some n }
    | _, _ => none
  | .read n =>
    match s.recordings[n]? with
    | some ⟨_, .locked⟩ =>
      match slot.get s.world with
      | .ok text => some (s.setStage n (.loaded text))
      | .error e => some (s.setStage n (.finished (.error (.unreadable e))))
    | _ => none
  | .write n =>
    match s.recordings[n]? with
    | some ⟨r, .loaded text⟩ =>
      match slot.set (HistoryStore.recorded text r) s.world with
      | (.ok (), world) => some { s.setStage n (.finished (.ok ())) with world }
      | (.error e, world) =>
        some { s.setStage n (.finished (.error (.unwritable e))) with world }
    | _ => none
  | .release n =>
    match s.recordings[n]? with
    | some ⟨_, .finished outcome⟩ => some { s.setStage n (.ended outcome) with lock := none }
    | _ => none
  | .cancel n =>
    match s.recordings[n]? with
    | some ⟨_, stage⟩ =>
      if stage.isOver then none
      else some { s.setStage n .cancelled with
        lock := if stage.holdsLock then none else s.lock }
    | none => none
  | .list => some { s with listed := s.listed ++ [HistoryStore.list slot s.world] }

end SharedHistory

end IngestViewer
