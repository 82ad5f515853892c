import IngestViewer.JsonNumber

namespace IngestViewer.Json

def hexChar (n : Nat) : Char :=
  (n % 16).digitChar

/-- How a character is written in a string literal. -/
def escape : Char → List Char
  | '"' => ['\\', '"']
  | '\\' => ['\\', '\\']
  | '\x08' => ['\\', 'b']
  | '\x0c' => ['\\', 'f']
  | '\n' => ['\\', 'n']
  | '\r' => ['\\', 'r']
  | '\t' => ['\\', 't']
  | c =>
    if c.toNat < 0x20 then ['\\', 'u', '0', '0', hexChar (c.toNat / 16), hexChar c.toNat] else [c]

/-- A literal that stands for no text is written as half of a surrogate pair. -/
def writeLiteral : Literal → List Char
  | some s => '"' :: s.toList.flatMap escape ++ ['"']
  | none => "\"\\ud800\"".toList

mutual

/-- The value without any white space. -/
def write : Json → List Char
  | null => "null".toList
  | bool true => "true".toList
  | bool false => "false".toList
  | number n => n.spelled
  | string s => writeLiteral s
  | array xs => '[' :: writeItems xs ++ [']']
  | object ms => '{' :: writeMembers ms ++ ['}']

def writeItems : List Json → List Char
  | [] => []
  | [x] => write x
  | x :: xs => write x ++ ',' :: writeItems xs

def writeMembers : Members → List Char
  | [] => []
  | [(name, v)] => writeLiteral name ++ ':' :: write v
  | (name, v) :: ms => writeLiteral name ++ ':' :: write v ++ ',' :: writeMembers ms

end

/-- The text of a value without any white space. -/
def compact (j : Json) : String :=
  String.ofList j.write

/-- A new line at a depth, two blanks for each level. -/
def newLine (depth : Nat) : List Char :=
  '\n' :: List.replicate (2 * depth) ' '

mutual

/-- The value with each item and member on a line of its own. -/
def writePretty (depth : Nat) : Json → List Char
  | array [] => "[]".toList
  | array (x :: xs) =>
    '[' :: newLine (depth + 1) ++ writePretty (depth + 1) x ++
      writePrettyItems (depth + 1) xs ++ newLine depth ++ [']']
  | object [] => ['{', '}']
  | object ((name, v) :: ms) =>
    '{' :: newLine (depth + 1) ++ writeLiteral name ++ ": ".toList ++
      writePretty (depth + 1) v ++ writePrettyMembers (depth + 1) ms ++ newLine depth ++ ['}']
  | j => write j

/-- The items behind the first one. -/
def writePrettyItems (depth : Nat) : List Json → List Char
  | [] => []
  | x :: xs => ',' :: newLine depth ++ writePretty depth x ++ writePrettyItems depth xs

/-- The members behind the first one. -/
def writePrettyMembers (depth : Nat) : Members → List Char
  | [] => []
  | (name, v) :: ms =>
    ',' :: newLine depth ++ writeLiteral name ++ ": ".toList ++ writePretty depth v ++
      writePrettyMembers depth ms

end

/-- The text of a value on several lines, indented by two blanks. -/
def pretty (j : Json) : String :=
  String.ofList (j.writePretty 0)

end IngestViewer.Json
