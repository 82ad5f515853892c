import IngestViewer.Composition
import IngestViewer.Direction
import IngestViewer.DomainCharacter
import IngestViewer.Joiner
import IngestViewer.Punycode

/-!
Domains with letters beyond ASCII. Each label has one written form in ASCII.
-/

namespace IngestViewer.DomainName

def isAscii (cs : List Char) : Bool :=
  cs.all (·.toNat < 0x80)

/-- What marks a label whose letters are written in ASCII. -/
def codeMark : List Char := "xn--".toList

/-- The longest label with letters beyond ASCII, and the longest code of one. -/
def labelLimit : Nat := 1000

def codeLimit : Nat := 2000

/-- Whether a label can stand in a domain: it does not begin with a mark, its joiners have a use,
and it is not too long. -/
def isLabel (cs : List Char) : Bool :=
  isAscii cs ||
    (!cs.head?.any CombiningMark.isMark && Joiner.allHaveUse [] cs && cs.length ≤ labelLimit)

/-- The characters that a text stands for, composed. -/
def forms? (cs : List Char) : Option (List Char) :=
  (cs.mapM DomainCharacter.forms?).map fun fs => Composition.compose fs.flatten

/-- Whether a label stands for itself. -/
def isForm (cs : List Char) : Bool :=
  cs.all (fun c => DomainCharacter.forms? c == some [c]) && Composition.compose cs == cs

/-- The label that a code stands for. Only labels that need a code have one, and only one. -/
def ofCode? (code : List Char) : Option (List Char) := do
  if codeLimit < code.length then none
  let label ← Punycode.decode code
  if !isAscii label && !codeMark.isPrefixOf label && isForm label && isLabel label &&
      Punycode.encode label == code then
    some label
  else none

/-- Reads a label that has been brought into its form. -/
def readLabel? (cs : List Char) : Option (List Char) :=
  if codeMark.isPrefixOf cs then ofCode? (cs.drop codeMark.length)
  else if isLabel cs then some cs
  else none

/-- The labels of a domain. -/
def labels? (cs : List Char) : Option (List (List Char)) := do
  let labels ← (segments '.' (← forms? cs)).mapM readLabel?
  if Direction.areOrdered labels then some labels else none

/-- A label in ASCII. -/
def labelText (label : List Char) : List Char :=
  if isAscii label then label else codeMark ++ Punycode.encode label

/-- A domain in ASCII; `none` if a text is no domain. -/
def ascii? (cs : List Char) : Option (List Char) :=
  (labels? cs).map fun labels => ['.'].intercalate (labels.map labelText)

end IngestViewer.DomainName
