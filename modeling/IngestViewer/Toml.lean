namespace IngestViewer

/-- How a table came about: by a header of its own, by a longer header, by dotted keys, or between
braces. -/
inductive TableOrigin where
  | header
  | implied
  | dotted
  | inline
deriving DecidableEq, Repr

/-- A value of a TOML document. Numbers with a fraction, dates and times are told apart from the
rest only. -/
inductive Toml where
  | string (s : String)
  | integer (i : Int)
  | boolean (b : Bool)
  | float
  | dateTime
  | array (items : List Toml)
  | table (origin : TableOrigin) (entries : List (String × Toml))
  | tables (items : List Toml)
deriving Repr, Inhabited

namespace Toml

abbrev Entries := List (String × Toml)

def empty (origin : TableOrigin) : Toml := table origin []

/-- The value of a key in a table. -/
def get? (key : String) : Toml → Option Toml
  | table _ entries => entries.lookup key
  | _ => none

def text? : Toml → Option String
  | string s => some s
  | _ => none

def integer? : Toml → Option Int
  | integer i => some i
  | _ => none

/-- Replaces the value of a key, or adds the key at the end. -/
def put (key : String) (v : Toml) : Entries → Entries
  | [] => [(key, v)]
  | (k, w) :: es => if k = key then (k, v) :: es else (k, w) :: put key v es

/-- Changes what a table holds for a key. The change may be refused. -/
def alter (key : String) (change : Option Toml → Option Toml) : Toml → Option Toml
  | table origin entries =>
    (change (entries.lookup key)).map fun v => table origin (put key v entries)
  | _ => none

/-- Changes the last of several tables. -/
def alterLast (change : Toml → Option Toml) : List Toml → Option (List Toml)
  | [] => none
  | [t] => (change t).map ([·])
  | t :: ts => (alterLast change ts).map (t :: ·)

/-- Goes along the keys of a header and changes what the last of them stands for. Tables on the way
are made; of several tables the last is meant. -/
def alterAt (change : Option Toml → Option Toml) : List String → Toml → Option Toml
  | [], _ => none
  | [key], t => alter key change t
  | key :: keys, t =>
    alter key (fun
      | none => alterAt change keys (empty .implied)
      | some (table .inline _) => none
      | some (table origin entries) => alterAt change keys (table origin entries)
      | some (tables ts) => (alterLast (alterAt change keys) ts).map tables
      | some _ => none) t

/-- Opens the table of a header: a new one, or one that only longer headers have named. -/
def openTable : List String → Toml → Option Toml :=
  alterAt fun
    | none => some (empty .header)
    | some (table .implied entries) => some (table .header entries)
    | some _ => none

/-- Opens one more table of several. -/
def openNext : List String → Toml → Option Toml :=
  alterAt fun
    | none => some (tables [empty .header])
    | some (tables ts) => some (tables (ts ++ [empty .header]))
    | some _ => none

/-- Sets a dotted key in a table. The tables on the way are those of dotted keys only, and no key is
set twice. -/
def assign (v : Toml) : List String → Toml → Option Toml
  | [], _ => none
  | [key], t =>
    alter key (fun
      | none => some v
      | some _ => none) t
  | key :: keys, t =>
    alter key (fun
      | none => assign v keys (empty .dotted)
      | some (table .dotted entries) => assign v keys (table .dotted entries)
      | some (table .implied entries) =>
        if keys.length = 1 then none else assign v keys (table .implied entries)
      | some (tables ts) =>
        if keys.length = 1 then none else (alterLast (assign v keys) ts).map tables
      | some _ => none) t

/-- Sets a dotted key in the table of the last header. -/
def assignAt (path keys : List String) (v : Toml) (t : Toml) : Option Toml :=
  match path with
  | [] => assign v keys t
  | path =>
    alterAt (fun
      | some (tables ts) => (alterLast (assign v keys) ts).map tables
      | some t => assign v keys t
      | none => none) path t

/-- A table between braces. -/
def inlineTable (pairs : List (List String × Toml)) : Option Toml := do
  match ← pairs.foldlM (fun t (keys, v) => assign v keys t) (empty .inline) with
  | table _ entries => some (table .inline entries)
  | _ => none

end Toml

end IngestViewer
