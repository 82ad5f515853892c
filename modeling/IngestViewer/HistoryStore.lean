import IngestViewer.FileStore
import IngestViewer.RecentIngests

namespace IngestViewer

/-- A place for one text, in a world of states `σ`, that reading and writing may fail on with an
error `ε`. -/
structure Slot (σ ε : Type) where
  get : σ → Except ε (Option String)
  set : String → σ → Except ε Unit × σ

/-- What went wrong with the history. -/
inductive HistoryFault (ε : Type) where
  | unreadable (cause : ε)
  | unwritable (cause : ε)
deriving DecidableEq, Repr

namespace HistoryFault

variable {ε : Type}

def message : HistoryFault ε → String
  | unreadable _ => "Failed to read recent ingests"
  | unwritable _ => "Failed to persist recent ingests"

def cause : HistoryFault ε → ε
  | unreadable e => e
  | unwritable e => e

end HistoryFault

namespace HistoryStore

variable {σ ε : Type}

/-- The key that the history is kept under. -/
def key : String := "recent-ingests"

/-- The history in a slot: an empty one if there is no text, or none that can be read as a
history. -/
def load : Option String → RecentIngests
  | some text => .ofText text
  | none => .empty

/-- The text of a slot after a record has been put in front. -/
def recorded (slot : Option String) (r : IngestRecord) : String :=
  ((load slot).record r).text

/-- The remembered ingests, the latest first. -/
def list (slot : Slot σ ε) (s : σ) : Except (HistoryFault ε) (List RecentIngest) :=
  match slot.get s with
  | .ok text => .ok (load text).entries
  | .error e => .error (.unreadable e)

/-- Puts a record in front of the history. -/
def record (slot : Slot σ ε) (r : IngestRecord) (s : σ) : Except (HistoryFault ε) Unit × σ :=
  match slot.get s with
  | .ok text =>
    match slot.set (recorded text r) s with
    | (.ok (), s) => (.ok (), s)
    | (.error e, s) => (.error (.unwritable e), s)
  | .error e => (.error (.unreadable e), s)

end HistoryStore

/-- The slot of a file store that the history is kept in. -/
def FileStore.historySlot (store : FileStore) : Slot Disk FileStoreFault where
  get d := store.get d HistoryStore.key
  set text d := store.set d HistoryStore.key text

/-- A slot in memory, which can be made to fail. -/
structure MemorySlot where
  text : Option String := none
  getFails : Bool := false
  setFails : Bool := false

inductive MemorySlotFault where
  | getRefused
  | setRefused
deriving DecidableEq, Repr

def MemorySlotFault.message : MemorySlotFault → String
  | getRefused => "get refused"
  | setRefused => "set refused"

def MemorySlot.slot : Slot MemorySlot MemorySlotFault where
  get m := if m.getFails then .error .getRefused else .ok m.text
  set text m :=
    if m.setFails then (.error .setRefused, m) else (.ok (), { m with text := some text })

end IngestViewer
