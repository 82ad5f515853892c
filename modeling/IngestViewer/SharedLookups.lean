import IngestViewer.LookupFailure

namespace IngestViewer

/-- What a lookup asks for. -/
structure LookupKey where
  id : IngestId
  selector : Selector
deriving DecidableEq, Repr

/-- How far a fetch has got: the service has not answered, its answer has not been looked at, or it
has. -/
inductive FlightStage where
  | asked
  | answered (r : LookupResult)
  | landed (r : LookupResult)

/-- A fetch that the callers of one key share. -/
structure Flight where
  key : LookupKey
  stage : FlightStage

/-- Where a caller stands: not yet polled, or waiting for the flight of that number. -/
inductive Caller where
  | fresh (key : LookupKey)
  | waiting (flight : Nat)
deriving DecidableEq, Repr

/-- What can be seen from outside while lookups run. -/
inductive Notice where
  | started (id : IngestId)
  | done (id : IngestId)
  | fetched (flight : Nat) (key : LookupKey)
deriving DecidableEq, Repr

/-- What a caller learns by polling. -/
inductive PollOutcome where
  | gone
  | pending
  | ended (r : LookupResult)

/-- Lookups under way. Flights are numbered in the order of their fetches. The registry names the
flight that a new caller of a key may join, as long as somebody waits for it. -/
structure SharedLookups where
  flights : List Flight := []
  callers : List (String × Caller) := []
  registry : List (LookupKey × Nat) := []

namespace SharedLookups

/-- Whether some caller waits for a flight. -/
def isHeld (s : SharedLookups) (n : Nat) : Bool :=
  s.callers.any fun c => c.2 == .waiting n

/-- The flight that a new caller of a key joins. -/
def joinable? (s : SharedLookups) (key : LookupKey) : Option Nat :=
  (s.registry.lookup key).filter s.isHeld

def forget (s : SharedLookups) (name : String) : SharedLookups :=
  { s with callers := s.callers.filter (·.1 ≠ name) }

def setCaller (s : SharedLookups) (name : String) (c : Caller) : SharedLookups :=
  { s with callers := (name, c) :: (s.forget name).callers }

def setStage (s : SharedLookups) (n : Nat) (stage : FlightStage) : SharedLookups :=
  { s with flights := s.flights.modify n fun f => { f with stage } }

/-- Starts a flight for a key. Entries of flights that nobody waits for are swept from the
registry. -/
def launch (s : SharedLookups) (key : LookupKey) : SharedLookups :=
  { s with
    flights := s.flights ++ [⟨key, .asked⟩]
    registry := (key, s.flights.length) :: s.registry.filter fun e => s.isHeld e.2 }

/-- The end of a flight that somebody has looked at: a later caller of its key does not join it. -/
def land (s : SharedLookups) (n : Nat) (key : LookupKey) (r : LookupResult) : SharedLookups :=
  { s.setStage n (.landed r) with registry := s.registry.filter (·.1 ≠ key) }

/-- A waiting caller looks at its flight. -/
def look (s : SharedLookups) (name : String) (n : Nat) :
    PollOutcome × List Notice × SharedLookups :=
  match s.flights[n]? with
  | some ⟨_, .asked⟩ => (.pending, [], s)
  | some ⟨key, .answered r⟩ => (.ended r, [.done key.id], (s.land n key r).forget name)
  | some ⟨_, .landed r⟩ => (.ended r, [], s.forget name)
  | none => (.gone, [], s)

/-- Polls a caller: at the first time it joins a flight or starts one. -/
def poll (s : SharedLookups) (name : String) : PollOutcome × List Notice × SharedLookups :=
  match s.callers.lookup name with
  | none => (.gone, [], s)
  | some (.waiting n) => s.look name n
  | some (.fresh key) =>
    match s.joinable? key with
    | some n => (s.setCaller name (.waiting n)).look name n
    | none =>
      (.pending, [.started key.id, .fetched s.flights.length key],
        (s.launch key).setCaller name (.waiting s.flights.length))

/-- Whether a flight waits for its answer and somebody for the flight. -/
def isLive (s : SharedLookups) (n : Nat) : Bool :=
  match s.flights[n]? with
  | some ⟨_, .asked⟩ => s.isHeld n
  | _ => false

/-- Hands a flight its answer, if somebody waits for it. -/
def answer (s : SharedLookups) (n : Nat) (r : LookupResult) : Bool × SharedLookups :=
  if s.isLive n then (true, s.setStage n (.answered r)) else (false, s)

/-- What is seen when a caller lets go of a flight: the end of one that is left alone before it has
landed. -/
def abandon (s : SharedLookups) (n : Nat) : List Notice :=
  match s.flights[n]? with
  | some ⟨_, .landed _⟩ => []
  | some ⟨key, _⟩ => if s.isHeld n then [] else [.done key.id]
  | none => []

/-- Drops a caller. -/
def drop (s : SharedLookups) (name : String) : Bool × List Notice × SharedLookups :=
  match s.callers.lookup name with
  | none => (false, [], s)
  | some (.fresh _) => (true, [], s.forget name)
  | some (.waiting n) => (true, (s.forget name).abandon n, s.forget name)

/-- A new caller. Nothing is asked before it is polled. A caller that had its name is dropped. -/
def begin (s : SharedLookups) (name : String) (key : LookupKey) : List Notice × SharedLookups :=
  let (_, seen, s) := s.drop name
  (seen, s.setCaller name (.fresh key))

/-- Drops callers one after another. -/
def dropAll (s : SharedLookups) : List String → List Notice × SharedLookups
  | [] => ([], s)
  | name :: names =>
    let (_, seen, s) := s.drop name
    let (rest, s) := s.dropAll names
    (seen ++ rest, s)

end SharedLookups

end IngestViewer
