import IngestViewer.Json

namespace IngestViewer.Json

/-- White space between tokens. -/
def isSpace (c : Char) : Bool :=
  c == ' ' || c == '\n' || c == '\t' || c == '\r'

def skipSpace (cs : List Char) : List Char :=
  cs.dropWhile isSpace

/-- A piece of a string literal: a character, or a UTF-16 code unit named by its number. -/
inductive Piece where
  | char (c : Char)
  | unit (n : Nat)
deriving DecidableEq, Repr

def hexDigit? (c : Char) : Option Nat :=
  if '0' ≤ c ∧ c ≤ '9' then some (c.toNat - '0'.toNat)
  else if 'a' ≤ c ∧ c ≤ 'f' then some (c.toNat - 'a'.toNat + 10)
  else if 'A' ≤ c ∧ c ≤ 'F' then some (c.toNat - 'A'.toNat + 10)
  else none

def hexUnit? (a b c d : Char) : Option Nat := do
  let a ← hexDigit? a
  let b ← hexDigit? b
  let c ← hexDigit? c
  let d ← hexDigit? d
  some (((a * 16 + b) * 16 + c) * 16 + d)

/-- The character behind a one-letter escape. -/
def escaped? : Char → Option Char
  | '"' => some '"'
  | '\\' => some '\\'
  | '/' => some '/'
  | 'b' => some '\x08'
  | 'f' => some '\x0c'
  | 'n' => some '\n'
  | 'r' => some '\r'
  | 't' => some '\t'
  | _ => none

/-- Reads a string literal from behind its opening quote. -/
def readPieces : List Char → Option (List Piece × List Char)
  | [] => none
  | '"' :: r => some ([], r)
  | '\\' :: 'u' :: a :: b :: c :: d :: r => do
    let n ← hexUnit? a b c d
    let (ps, rest) ← readPieces r
    some (.unit n :: ps, rest)
  | '\\' :: e :: r => do
    let c ← escaped? e
    let (ps, rest) ← readPieces r
    some (.char c :: ps, rest)
  | c :: r =>
    if c == '\\' || c.toNat < 0x20 then none
    else do
      let (ps, rest) ← readPieces r
      some (.char c :: ps, rest)

def isHighHalf (n : Nat) : Bool := 0xD800 ≤ n && n < 0xDC00

def isLowHalf (n : Nat) : Bool := 0xDC00 ≤ n && n < 0xE000

/-- The characters of a literal's pieces; `none` if half of a surrogate pair stands alone. -/
def joinPieces : List Piece → Option (List Char)
  | [] => some []
  | .char c :: ps => (joinPieces ps).map (c :: ·)
  | .unit hi :: .unit lo :: ps =>
    if isHighHalf hi then
      if isLowHalf lo then
        (joinPieces ps).map (Char.ofNat (0x10000 + (hi - 0xD800) * 0x400 + (lo - 0xDC00)) :: ·)
      else none
    else if isLowHalf hi then none
    else (joinPieces (.unit lo :: ps)).map (Char.ofNat hi :: ·)
  | .unit n :: ps =>
    if isHighHalf n || isLowHalf n then none else (joinPieces ps).map (Char.ofNat n :: ·)

def readLiteral (cs : List Char) : Option (Literal × List Char) := do
  let (ps, rest) ← readPieces cs
  some ((joinPieces ps).map String.ofList, rest)

/-- Reads one digit or more. -/
def readDigits (cs : List Char) : Option (List Char × List Char) :=
  match cs.takeWhile Char.isDigit with
  | [] => none
  | d :: ds => some (d :: ds, cs.dropWhile Char.isDigit)

/-- Reads the part of a number before the point: no zero stands in front of another digit. -/
def readWhole (cs : List Char) : Option (Nat × List Char) :=
  match readDigits cs with
  | some ('0' :: _ :: _, _) => none
  | some (ds, rest) => some (Nat.ofDigitChars 10 ds 0, rest)
  | none => none

def readFraction : List Char → Option (Option (List Char) × List Char)
  | '.' :: r => (readDigits r).map fun (ds, rest) => (some ds, rest)
  | cs => some (none, cs)

/-- Reads the sign and the digits of an exponent. -/
def readPower : List Char → Option (Int × List Char)
  | '-' :: r => (readDigits r).map fun (ds, rest) => (-(Nat.ofDigitChars 10 ds 0 : Int), rest)
  | '+' :: r => (readDigits r).map fun (ds, rest) => ((Nat.ofDigitChars 10 ds 0 : Int), rest)
  | cs => (readDigits cs).map fun (ds, rest) => ((Nat.ofDigitChars 10 ds 0 : Int), rest)

def readExponent : List Char → Option (Option Int × List Char)
  | c :: r =>
    if c == 'e' || c == 'E' then (readPower r).map fun (e, rest) => (some e, rest)
    else some (none, c :: r)
  | [] => some (none, [])

def readUnsigned (negative : Bool) (cs : List Char) : Option (Number × List Char) := do
  let (whole, cs) ← readWhole cs
  let (fraction, cs) ← readFraction cs
  let (exponent, cs) ← readExponent cs
  some (⟨negative, whole, fraction, exponent⟩, cs)

def readNumber : List Char → Option (Number × List Char)
  | '-' :: r => readUnsigned true r
  | cs => readUnsigned false cs

/-- Reads a value that is no array, object or string. -/
def readScalar : List Char → Option (Json × List Char)
  | 'n' :: 'u' :: 'l' :: 'l' :: r => some (null, r)
  | 't' :: 'r' :: 'u' :: 'e' :: r => some (bool true, r)
  | 'f' :: 'a' :: 'l' :: 's' :: 'e' :: r => some (bool false, r)
  | cs => (readNumber cs).map fun (n, rest) => (number n, rest)

/-- Reads the colon behind a member's name. -/
def readColon (cs : List Char) : Option (List Char) :=
  match skipSpace cs with
  | ':' :: r => some r
  | _ => none

mutual

/-- Reads a value, with white space before it. The first argument bounds the number of steps. -/
def readValue : Nat → List Char → Option (Json × List Char)
  | 0, _ => none
  | n + 1, cs =>
    match skipSpace cs with
    | '[' :: r =>
      match skipSpace r with
      | ']' :: r => some (array [], r)
      | r => (readItems n r).map fun (xs, rest) => (array xs, rest)
    | '{' :: r =>
      match skipSpace r with
      | '}' :: r => some (object [], r)
      | r => (readMembers n r).map fun (ms, rest) => (object ms, rest)
    | '"' :: r => (readLiteral r).map fun (s, rest) => (string s, rest)
    | r => readScalar r

/-- Reads the values of an array, up to its closing bracket. -/
def readItems : Nat → List Char → Option (List Json × List Char)
  | 0, _ => none
  | n + 1, cs => do
    let (x, r) ← readValue n cs
    match skipSpace r with
    | ']' :: r => some ([x], r)
    | ',' :: r =>
      let (xs, rest) ← readItems n r
      some (x :: xs, rest)
    | _ => none

/-- Reads the members of an object, up to its closing brace. -/
def readMembers : Nat → List Char → Option (Members × List Char)
  | 0, _ => none
  | n + 1, cs =>
    match skipSpace cs with
    | '"' :: r => do
      let (name, r) ← readLiteral r
      let r ← readColon r
      let (v, r) ← readValue n r
      match skipSpace r with
      | '}' :: r => some ([(name, v)], r)
      | ',' :: r =>
        let (ms, rest) ← readMembers n r
        some ((name, v) :: ms, rest)
      | _ => none
    | _ => none

end

/-- Reads a text that holds one value and white space around it. Each step takes a character or
opens what the step before it has announced, so twice the length is enough. -/
def read (s : String) : Option Json :=
  match readValue (2 * s.length + 2) s.toList with
  | some (v, rest) => if (skipSpace rest).isEmpty then some v else none
  | none => none

end IngestViewer.Json
