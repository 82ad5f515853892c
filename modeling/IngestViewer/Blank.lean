namespace IngestViewer

/-- The characters that have the Unicode property White_Space. -/
def isBlank (c : Char) : Bool :=
  let n := c.toNat
  (9 ≤ n && n ≤ 13) || n == 0x20 || n == 0x85 || n == 0xA0 || n == 0x1680 ||
    (0x2000 ≤ n && n ≤ 0x200A) || n == 0x2028 || n == 0x2029 || n == 0x202F ||
    n == 0x205F || n == 0x3000

/-- A text without the blanks at its end. -/
def dropBlankEnd : List Char → List Char
  | [] => []
  | c :: cs =>
    match dropBlankEnd cs with
    | [] => if isBlank c then [] else [c]
    | ds => c :: ds

/-- A text without the blanks around it. -/
def trimBlanks (cs : List Char) : List Char :=
  dropBlankEnd (cs.dropWhile isBlank)

/-- A string without the blanks around it. -/
def trimmed (s : String) : String :=
  String.ofList (trimBlanks s.toList)

end IngestViewer
