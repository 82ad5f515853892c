import IngestViewer.JsonNumber
import IngestViewer.JsonReader

namespace IngestViewer.Json

/-- How deep the containers of a value may be nested that is held as a whole. -/
def depthLimit : Nat := 127

mutual

/-- Whether all strings stand for texts and all numbers for doubles, and containers are nested at
most so deep. -/
def isSound : Nat → Json → Bool
  | _, null => true
  | _, bool _ => true
  | _, number n => n.isFinite
  | _, string s => s.isSome
  | 0, array _ => false
  | 0, object _ => false
  | depth + 1, array xs => areSoundItems depth xs
  | depth + 1, object ms => areSoundMembers depth ms

def areSoundItems : Nat → List Json → Bool
  | _, [] => true
  | depth, x :: xs => isSound depth x && areSoundItems depth xs

def areSoundMembers : Nat → Members → Bool
  | _, [] => true
  | depth, (name, v) :: ms => name.isSome && isSound depth v && areSoundMembers depth ms

end

mutual

/-- The value with only the last of the members that share a name, in every object. -/
def lastWins : Json → Json
  | array xs => array (lastWinsItems xs)
  | object ms => object (lastWinsMembers ms)
  | j => j

def lastWinsItems : List Json → List Json
  | [] => []
  | x :: xs => lastWins x :: lastWinsItems xs

def lastWinsMembers : Members → Members
  | [] => []
  | (name, v) :: ms =>
    if ms.any (·.1 == name) then lastWinsMembers ms
    else (name, lastWins v) :: lastWinsMembers ms

end

/-- Reads a text as a value that is held as a whole. -/
def parse (s : String) : Option Json :=
  match read s with
  | some j => if j.isSound depthLimit then some j.lastWins else none
  | none => none

/-- The fields of a structure with the given field names, as a function of the name. The structure
is written as an object, in which no field is repeated and other members do not count, or as an
array of its fields in order, which may be cut short. -/
def fields (names : List String) : Json → Option (String → Option Json)
  | object ms =>
    if ms.all (·.1.isSome) && names.all (fun name => Members.count name ms ≤ 1) then
      some fun name => Members.find? name ms
    else none
  | array xs =>
    if xs.length ≤ names.length then some fun name => xs[names.idxOf name]? else none
  | _ => none

/-- The value of a field that may be missing or null. -/
def optional {α : Type} (read : Json → Option α) : Option Json → Option (Option α)
  | none => some none
  | some null => some none
  | some j => (read j).map some

/-- The value of a field that may be missing but not null. -/
def withDefault {α : Type} (read : Json → Option α) (default : α) : Option Json → Option α
  | none => some default
  | some j => read j

end IngestViewer.Json
