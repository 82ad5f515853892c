import IngestViewer.PercentEncoding

namespace IngestViewer.Toml

/-- Whether a character may stand in a string or a comment. -/
def isAllowed (c : Char) : Bool :=
  c == '\t' || (0x20 ≤ c.toNat && c.toNat != 0x7F)

def isGap (c : Char) : Bool := c == ' ' || c == '\t'

/-- Reads the end of a line. -/
def readNewline : List Char → Option (List Char)
  | '\n' :: cs => some cs
  | '\r' :: '\n' :: cs => some cs
  | _ => none

/-- The character behind a one-letter escape. -/
def escaped? : Char → Option Char
  | '"' => some '"'
  | '\\' => some '\\'
  | 'b' => some '\x08'
  | 't' => some '\t'
  | 'n' => some '\n'
  | 'f' => some '\x0c'
  | 'r' => some '\r'
  | _ => none

/-- The character of a number in hexadecimal digits. -/
def hexChar? (ds : List Char) : Option Char := do
  let n ← ds.foldlM (fun n d => (PercentEncoding.hexValue? d).map (n * 16 + ·)) 0
  if n.isValidChar then some (Char.ofNat n) else none

/-- Reads what follows the backslash of an escape. -/
def readEscape : List Char → Option (Char × List Char)
  | 'u' :: a :: b :: c :: d :: r => (hexChar? [a, b, c, d]).map (·, r)
  | 'U' :: a :: b :: c :: d :: e :: f :: g :: h :: r =>
    (hexChar? [a, b, c, d, e, f, g, h]).map (·, r)
  | c :: r => (escaped? c).map (·, r)
  | [] => none

/-- Reads a string in double quotes from behind the first one. -/
def readBasic : Nat → List Char → Option (List Char × List Char)
  | 0, _ => none
  | _, [] => none
  | _, '"' :: r => some ([], r)
  | n + 1, '\\' :: r => do
    let (c, r) ← readEscape r
    let (cs, rest) ← readBasic n r
    some (c :: cs, rest)
  | n + 1, c :: r =>
    if isAllowed c then (readBasic n r).map fun (cs, rest) => (c :: cs, rest) else none

/-- Reads a string in single quotes from behind the first one. -/
def readVerbatim : List Char → Option (List Char × List Char)
  | [] => none
  | c :: r =>
    if c == '\'' then some ([], r)
    else if isAllowed c then (readVerbatim r).map fun (cs, rest) => (c :: cs, rest)
    else none

/-- The end of a string in triple quotes: up to two quotes more belong to the string. -/
def readTripleEnd (q : Char) (cs : List Char) : Option (List Char × List Char) :=
  let n := (cs.takeWhile (· == q)).length
  if n < 3 then none
  else
    let k := min (n - 3) 2
    some (List.replicate k q, cs.drop (k + 3))

/-- Passes over gaps and line ends behind a backslash at the end of a line. A carriage return alone
is no line end. -/
def skipLines : List Char → List Char
  | '\r' :: '\n' :: cs => skipLines cs
  | c :: cs => if isGap c || c == '\n' then skipLines cs else c :: cs
  | [] => []

/-- Reads a string in triple double quotes from behind the first ones. -/
def readTripleBasic : Nat → List Char → Option (List Char × List Char)
  | 0, _ => none
  | n + 1, cs =>
    match readTripleEnd '"' cs, cs with
    | some done, _ => some done
    | none, [] => none
    | none, '\\' :: r =>
      match readNewline (r.dropWhile isGap) with
      | some r => readTripleBasic n (skipLines r)
      | none => do
        let (c, r) ← readEscape r
        let (cs, rest) ← readTripleBasic n r
        some (c :: cs, rest)
    | none, c :: r =>
      match readNewline (c :: r) with
      | some r => (readTripleBasic n r).map fun (cs, rest) => ('\n' :: cs, rest)
      | none =>
        if isAllowed c then (readTripleBasic n r).map fun (cs, rest) => (c :: cs, rest) else none

/-- Reads a string in triple single quotes from behind the first ones. -/
def readTripleVerbatim : Nat → List Char → Option (List Char × List Char)
  | 0, _ => none
  | n + 1, cs =>
    match readTripleEnd '\'' cs, cs with
    | some done, _ => some done
    | none, [] => none
    | none, c :: r =>
      match readNewline (c :: r) with
      | some r => (readTripleVerbatim n r).map fun (cs, rest) => ('\n' :: cs, rest)
      | none =>
        if isAllowed c then (readTripleVerbatim n r).map fun (cs, rest) => (c :: cs, rest) else none

/-- Leaves out the end of a line right behind the opening quotes. -/
def skipFirstNewline (cs : List Char) : List Char :=
  (readNewline cs).getD cs

/-- Reads a string of one line. -/
def readLineString : List Char → Option (String × List Char)
  | '"' :: r => (readBasic (r.length + 1) r).map fun (cs, rest) => (String.ofList cs, rest)
  | c :: r =>
    if c == '\'' then (readVerbatim r).map fun (cs, rest) => (String.ofList cs, rest) else none
  | [] => none

/-- Reads a string of any kind. -/
def readString (cs : List Char) : Option (String × List Char) :=
  let text (p : List Char × List Char) : String × List Char := (String.ofList p.1, p.2)
  if "\"\"\"".toList.isPrefixOf cs then
    (readTripleBasic (cs.length + 1) (skipFirstNewline (cs.drop 3))).map text
  else if "'''".toList.isPrefixOf cs then
    (readTripleVerbatim (cs.length + 1) (skipFirstNewline (cs.drop 3))).map text
  else readLineString cs

end IngestViewer.Toml
