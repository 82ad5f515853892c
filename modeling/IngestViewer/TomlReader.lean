import IngestViewer.TomlScalar
import IngestViewer.TomlString

namespace IngestViewer.Toml

def skipGap (cs : List Char) : List Char := cs.dropWhile isGap

/-- Passes over a comment up to the end of its line. -/
def skipComment (cs : List Char) : List Char :=
  match cs with
  | '#' :: r => r.dropWhile isAllowed
  | cs => cs

/-- Reads what may stand behind the contents of a line: a gap, a comment, and the end of the line or
of the text. -/
def readLineEnd (cs : List Char) : Option (List Char) :=
  match skipComment (skipGap cs) with
  | [] => some []
  | cs => readNewline cs

/-- Passes over gaps, comments and line ends. -/
def skipBlankLines : Nat → List Char → List Char
  | 0, cs => cs
  | n + 1, cs =>
    match readNewline (skipComment (skipGap cs)) with
    | some r => skipBlankLines n r
    | none => skipComment (skipGap cs)

def isBareKeyChar (c : Char) : Bool :=
  c.isAlphanum || c == '_' || c == '-'

/-- Reads a key without dots. -/
def readSimpleKey (cs : List Char) : Option (String × List Char) :=
  match cs.takeWhile isBareKeyChar with
  | [] => readLineString cs
  | name => some (String.ofList name, cs.dropWhile isBareKeyChar)

/-- Values stand in fewer brackets and braces than this, and keys have fewer parts. -/
def depthLimit : Nat := 80

/-- Reads the parts of a key with dots, and gaps around it and the dots. -/
def readKeyParts : Nat → List Char → Option (List String × List Char)
  | 0, _ => none
  | n + 1, cs => do
    let (name, r) ← readSimpleKey (skipGap cs)
    match skipGap r with
    | '.' :: r =>
      let (names, rest) ← readKeyParts n r
      some (name :: names, rest)
    | r => some ([name], r)

/-- Reads a key with dots. -/
def readKey (cs : List Char) : Option (List String × List Char) :=
  (readKeyParts cs.length cs).filter (·.1.length < depthLimit)

/-- Reads the equals sign behind a key. -/
def readEquals (cs : List Char) : Option (List Char) :=
  match cs with
  | '=' :: r => some (skipGap r)
  | _ => none

mutual

/-- Reads a value. The first argument bounds the number of steps, the second one counts the brackets
and braces around the value. -/
def readValue : Nat → Nat → List Char → Option (Toml × List Char)
  | 0, _, _ => none
  | n + 1, depth, cs =>
    match cs with
    | '[' :: r => (readItems n (depth + 1) r).map fun (xs, rest) => (array xs, rest)
    | '{' :: r =>
      match skipGap r with
      | '}' :: r => if depth + 1 < depthLimit then some (empty .inline, r) else none
      | r => do
        let (pairs, rest) ← readPairs n (depth + 1) r
        let t ← inlineTable pairs
        some (t, rest)
    | c :: _ =>
      if c == '"' || c == '\'' then (readString cs).map fun (s, rest) => (string s, rest)
      else readScalar cs
    | [] => none

/-- Reads the items of an array up to its closing bracket. A comma may stand behind the last. -/
def readItems : Nat → Nat → List Char → Option (List Toml × List Char)
  | 0, _, _ => none
  | n + 1, depth, cs =>
    if depthLimit ≤ depth then none
    else
      match skipBlankLines cs.length cs with
      | ']' :: r => some ([], r)
      | cs => do
        let (x, r) ← readValue n depth cs
        match skipBlankLines r.length r with
        | ']' :: r => some ([x], r)
        | ',' :: r =>
          let (xs, rest) ← readItems n depth r
          some (x :: xs, rest)
        | _ => none

/-- Reads the keys and values of a table up to its closing brace, all on one line. -/
def readPairs : Nat → Nat → List Char → Option (List (List String × Toml) × List Char)
  | 0, _, _ => none
  | n + 1, depth, cs =>
    if depthLimit ≤ depth then none
    else do
      let (keys, r) ← readKey cs
      let r ← readEquals r
      let (v, r) ← readValue n depth r
      match skipGap r with
      | '}' :: r => some ([(keys, v)], r)
      | ',' :: r =>
        let (pairs, rest) ← readPairs n depth r
        some ((keys, v) :: pairs, rest)
      | _ => none

end

/-- A document as far as it has been read: its root table and the keys of the last header. -/
structure Document where
  root : Toml
  path : List String

/-- Reads a line that is not blank. -/
def readLine (doc : Document) (cs : List Char) : Option (Document × List Char) :=
  match cs with
  | '[' :: '[' :: r => do
    let (path, r) ← readKey r
    match r with
    | ']' :: ']' :: r =>
      let root ← openNext path doc.root
      let rest ← readLineEnd r
      some (⟨root, path⟩, rest)
    | _ => none
  | '[' :: r => do
    let (path, r) ← readKey r
    match r with
    | ']' :: r =>
      let root ← openTable path doc.root
      let rest ← readLineEnd r
      some (⟨root, path⟩, rest)
    | _ => none
  | cs => do
    let (keys, r) ← readKey cs
    let r ← readEquals r
    let (v, r) ← readValue (2 * r.length + 2) 0 r
    let root ← assignAt doc.path keys v doc.root
    let rest ← readLineEnd r
    some (⟨root, doc.path⟩, rest)

def readLines : Nat → Document → List Char → Option Document
  | 0, _, _ => none
  | n + 1, doc, cs =>
    match skipBlankLines (cs.length + 1) cs with
    | [] => some doc
    | cs => do
      let (doc, rest) ← readLine doc cs
      readLines n doc rest

/-- Reads a document. A byte order mark in front of it does not count. -/
def parse (s : String) : Option Toml :=
  let cs :=
    match s.toList with
    | '\uFEFF' :: cs => cs
    | cs => cs
  (readLines (cs.length + 1) ⟨empty .header, []⟩ cs).map (·.root)

end IngestViewer.Toml
