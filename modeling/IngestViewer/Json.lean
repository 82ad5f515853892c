namespace IngestViewer

/-- The text of a string literal. It is `none` if an escape in the literal names one half of a
surrogate pair without the other: such a literal is well formed but stands for no text. -/
abbrev Literal := Option String

/-- A number as it is written: its sign, the part before the point, the digits after it, and the
exponent. -/
structure Json.Number where
  negative : Bool := false
  whole : Nat
  fraction : Option (List Char) := none
  exponent : Option Int := none
deriving DecidableEq, Repr

/-- A JSON value as it is written: members in order, repeated ones included. -/
inductive Json where
  | null
  | bool (b : Bool)
  | number (n : Json.Number)
  | string (s : Literal)
  | array (items : List Json)
  | object (members : List (Literal × Json))
deriving Repr, Inhabited

namespace Json

abbrev Members := List (Literal × Json)

/-- A string value. -/
def ofText (s : String) : Json := string (some s)

def ofNat (n : Nat) : Json := number { whole := n }

/-- An object with the given members. -/
def ofMembers (ms : List (String × Json)) : Json :=
  object (ms.map fun (name, v) => (some name, v))

/-- A value that may be missing, and is null then. -/
def ofOption {α : Type} (a : Option α) (f : α → Json) : Json :=
  match a with
  | some a => f a
  | none => null

def text? : Json → Option String
  | string s => s
  | _ => none

def bool? : Json → Option Bool
  | bool b => some b
  | _ => none

def items? : Json → Option (List Json)
  | array xs => some xs
  | _ => none

namespace Members

/-- The value of the first member of that name. -/
def find? (name : String) (ms : Members) : Option Json :=
  ms.lookup (some name)

/-- How many members have that name. -/
def count (name : String) (ms : Members) : Nat :=
  ms.countP fun m => m.1 == some name

/-- All members but those of that name. -/
def erase (name : String) (ms : Members) : Members :=
  ms.filter fun m => m.1 != some name

/-- The members with the one of that name set to a value. -/
def insert (name : String) (v : Json) (ms : Members) : Members :=
  ms.erase name ++ [(some name, v)]

end Members

/-- The value of a member of an object. -/
def member? (name : String) : Json → Option Json
  | object ms => Members.find? name ms
  | _ => none

end Json

end IngestViewer
