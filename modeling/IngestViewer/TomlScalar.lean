import IngestViewer.Calendar
import IngestViewer.PercentEncoding
import IngestViewer.Toml

namespace IngestViewer.Toml

/-- The part of a text that starts with `true`, a number, a date or the like. -/
def isScalarChar (c : Char) : Bool :=
  c.isAlphanum || c == '_' || c == '+' || c == '-' || c == '.' || c == ':'

/-- Digits without the underscores that stand between them. -/
def groupedDigits? (isDigit : Char → Bool) (cs : List Char) : Option (List Char) :=
  let rec go : Bool → List Char → Option (List Char)
    | afterDigit, [] => if afterDigit then some [] else none
    | afterDigit, '_' :: cs => if afterDigit then go false cs else none
    | _, c :: cs => if isDigit c then (go true cs).map (c :: ·) else none
  go false cs

def valueIn (base : Nat) (cs : List Char) : Nat :=
  cs.foldl (fun n c => n * base + (PercentEncoding.hexValue? c).getD 0) 0

/-- The range of integers. -/
def isRepresentable (i : Int) : Bool :=
  -0x8000000000000000 ≤ i && i < 0x8000000000000000

/-- Divides off a sign. -/
def cutSign : List Char → Bool × List Char
  | '-' :: cs => (true, cs)
  | '+' :: cs => (false, cs)
  | cs => (false, cs)

/-- Digits of which no zero stands in front of another. -/
def plainDigits? (cs : List Char) : Option (List Char) :=
  match groupedDigits? Char.isDigit cs with
  | some ('0' :: _ :: _) => none
  | ds => ds

def basedInteger? (base : Nat) (isDigit : Char → Bool) (cs : List Char) : Option Int :=
  (groupedDigits? isDigit cs).map fun ds => (valueIn base ds : Int)

def integerOf? (cs : List Char) : Option Int :=
  match cs with
  | '0' :: 'x' :: ds => basedInteger? 16 (fun c => (PercentEncoding.hexValue? c).isSome) ds
  | '0' :: 'o' :: ds => basedInteger? 8 (fun c => '0' ≤ c && c ≤ '7') ds
  | '0' :: 'b' :: ds => basedInteger? 2 (fun c => c == '0' || c == '1') ds
  | cs =>
    let (negative, ds) := cutSign cs
    (plainDigits? ds).map fun ds =>
      let n : Int := valueIn 10 ds
      if negative then -n else n

/-- Whether `digits * 10 ^ exponent` is rounded beyond all doubles. -/
def isTooLarge (digits : Nat) (exponent : Int) : Bool :=
  digits != 0 &&
    (400 < (Nat.toDigits 10 digits).length + exponent ||
      (-400 < exponent &&
        (Nat.pow 2 1024 - Nat.pow 2 970) * Nat.pow 10 (-exponent).toNat ≤
          digits * Nat.pow 10 exponent.toNat))

/-- Whether a text is a number with a fraction or an exponent. -/
def isFloat (cs : List Char) : Bool :=
  let (negative, cs) := cutSign cs
  if cs = "inf".toList ∨ cs = "nan".toList then true
  else
    let isMark (c : Char) : Bool := c == 'e' || c == 'E'
    let mantissa := cs.takeWhile (!isMark ·)
    let exponent : Option Int :=
      match cs.dropWhile (!isMark ·) with
      | [] => some 0
      | _ :: e =>
        let (negative, ds) := cutSign e
        (groupedDigits? Char.isDigit ds).map fun ds =>
          let n : Int := valueIn 10 ds
          if negative then -n else n
    let whole := mantissa.takeWhile (· != '.')
    let fraction : Option (List Char) :=
      match mantissa.dropWhile (· != '.') with
      | [] => if mantissa.length < cs.length then some [] else none
      | _ :: f => groupedDigits? Char.isDigit f
    match plainDigits? whole, fraction, exponent with
    | some whole, some fraction, some exponent =>
      negative || !isTooLarge (valueIn 10 (whole ++ fraction)) (exponent - fraction.length)
    | _, _, _ => false

/-- Reads so many digits. -/
def takeDigits (n : Nat) (cs : List Char) : Option (Nat × List Char) :=
  let ds := cs.take n
  if ds.length = n ∧ ds.all Char.isDigit then some (valueIn 10 ds, cs.drop n) else none

def takeChar (c : Char) : List Char → Option (List Char)
  | d :: cs => if c = d then some cs else none
  | [] => none

/-- Reads a calendar date. -/
def takeDate (cs : List Char) : Option (List Char) := do
  let (year, cs) ← takeDigits 4 cs
  let cs ← takeChar '-' cs
  let (month, cs) ← takeDigits 2 cs
  let cs ← takeChar '-' cs
  let (day, cs) ← takeDigits 2 cs
  let _ ← Date.ofNumbers? year month day
  some cs

/-- Reads a time of day. -/
def takeTime (cs : List Char) : Option (List Char) := do
  let (hour, cs) ← takeDigits 2 cs
  let cs ← takeChar ':' cs
  let (minute, cs) ← takeDigits 2 cs
  let cs ← takeChar ':' cs
  let (second, cs) ← takeDigits 2 cs
  if 23 < hour ∨ 59 < minute ∨ 60 < second then none
  match cs with
  | '.' :: d :: r => if d.isDigit then some (r.dropWhile Char.isDigit) else none
  | '.' :: [] => none
  | cs => some cs

/-- Whether a text is an offset from universal time, or nothing. -/
def isOffset (cs : List Char) : Bool :=
  match cs with
  | [] => true
  | ['Z'] | ['z'] => true
  | '+' :: r | '-' :: r =>
    match takeDigits 2 r with
    | some (hours, ':' :: r) =>
      match takeDigits 2 r with
      | some (minutes, []) => hours ≤ 23 && minutes ≤ 59
      | _ => false
    | _ => false
  | _ => false

/-- Whether a text is a date, a time, or a date with a time and perhaps an offset. -/
def isDateTime (cs : List Char) : Bool :=
  match takeDate cs with
  | some [] => true
  | some (c :: r) =>
    (c == 'T' || c == 't' || c == ' ') &&
      match takeTime r with
      | some rest => isOffset rest
      | none => false
  | none => takeTime cs == some []

/-- The value of a text that is neither a string nor made of parts. -/
def scalarOf? (cs : List Char) : Option Toml :=
  if cs = "true".toList then some (boolean true)
  else if cs = "false".toList then some (boolean false)
  else if isDateTime cs then some dateTime
  else if isFloat cs then some float
  else
    match integerOf? cs with
    | some i => if isRepresentable i then some (integer i) else none
    | none => none

/-- Reads such a value. A date may be divided from its time by a space. -/
def readScalar (cs : List Char) : Option (Toml × List Char) := do
  let token := cs.takeWhile isScalarChar
  let rest := cs.dropWhile isScalarChar
  match takeDate token, rest with
  | some [], ' ' :: c :: r =>
    if c.isDigit then
      let time := (c :: r).takeWhile isScalarChar
      let v ← scalarOf? (token ++ ' ' :: time)
      some (v, (c :: r).dropWhile isScalarChar)
    else some (dateTime, rest)
  | _, _ =>
    let v ← scalarOf? token
    some (v, rest)

end IngestViewer.Toml
