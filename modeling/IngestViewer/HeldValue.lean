import IngestViewer.JsonFields

namespace IngestViewer

/-- A number that is held: an integer of 64 bits or a double, by its sign and its magnitude. -/
inductive HeldNumber where
  | integer (i : Int)
  | double (negative : Bool) (magnitude : Float)

namespace HeldNumber

/-- The number that stands for a written one, if there is one. -/
def hold? (n : Json.Number) : Option HeldNumber :=
  match n.integer? with
  | some i => if Json.Number.isExact i then some (integer i) else rounded
  | none => rounded
where
  rounded : Option HeldNumber :=
    n.magnitude?.map (double n.negative)

def text : HeldNumber → String
  | integer i => toString i
  | double negative x =>
    String.ofList ((if negative then ['-'] else []) ++ Json.Number.magnitudeText x)

/-- A number of 32 bits. -/
def count? : HeldNumber → Option UInt32
  | integer i => if 0 ≤ i ∧ i < 0x100000000 then some i.toNat.toUInt32 else none
  | double .. => none

end HeldNumber

/-- A JSON value that is held as a whole: nothing is left of how its numbers and strings have been
written, and the members of an object stand in the order of their names, each name once. -/
inductive HeldValue where
  | null
  | bool (b : Bool)
  | number (n : HeldNumber)
  | string (s : String)
  | array (items : List HeldValue)
  | object (members : List (String × HeldValue))

namespace HeldValue

abbrev Members := List (String × HeldValue)

/-- The members with the one of a name set to a value, in the order of their names. -/
def Members.insert (name : String) (v : HeldValue) : Members → Members
  | [] => [(name, v)]
  | (other, w) :: ms =>
    if name = other then (name, v) :: ms
    else if name < other then (name, v) :: (other, w) :: ms
    else (other, w) :: Members.insert name v ms

mutual

/-- The value to hold for a written one with containers nested at most so deep. -/
def hold? : Nat → Json → Option HeldValue
  | _, .null => some null
  | _, .bool b => some (bool b)
  | _, .number n => (HeldNumber.hold? n).map number
  | _, .string s => s.map string
  | 0, .array _ => none
  | 0, .object _ => none
  | depth + 1, .array xs => (holdItems? depth xs).map array
  | depth + 1, .object ms => (holdMembers? depth [] ms).map object

def holdItems? : Nat → List Json → Option (List HeldValue)
  | _, [] => some []
  | depth, x :: xs => do
    let v ← hold? depth x
    let vs ← holdItems? depth xs
    some (v :: vs)

/-- Puts members one after another to those that are there already, in place of the one of the same
name. -/
def holdMembers? : Nat → Members → Json.Members → Option Members
  | _, there, [] => some there
  | depth, there, (name, x) :: ms => do
    let name ← name
    let v ← hold? depth x
    holdMembers? depth (there.insert name v) ms

end

/-- Reads a text as a value to hold. -/
def ofText? (s : String) : Option HeldValue := do
  hold? Json.depthLimit (← Json.read s)

def text? : HeldValue → Option String
  | string s => some s
  | _ => none

def bool? : HeldValue → Option Bool
  | bool b => some b
  | _ => none

def count? : HeldValue → Option UInt32
  | number n => n.count?
  | _ => none

def textOrNumber? : HeldValue → Option String
  | string s => some s
  | number n => some n.text
  | _ => none

def items? : HeldValue → Option (List HeldValue)
  | array xs => some xs
  | _ => none

/-- The fields of a structure with the given field names. -/
def fields (names : List String) : HeldValue → Option (String → Option HeldValue)
  | object ms => some fun name => ms.lookup name
  | array xs =>
    if xs.length ≤ names.length then some fun name => xs[names.idxOf name]? else none
  | _ => none

def isNull : HeldValue → Bool
  | null => true
  | _ => false

end HeldValue

end IngestViewer
