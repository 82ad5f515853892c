namespace IngestViewer

/-- The ending of an ordinal number. -/
def ordinalSuffix (n : Nat) : String :=
  if 11 ≤ n % 100 ∧ n % 100 ≤ 13 then "th"
  else if n % 10 = 1 then "st"
  else if n % 10 = 2 then "nd"
  else if n % 10 = 3 then "rd"
  else "th"

/-- An ordinal number in digits. -/
def ordinal (n : Nat) : String :=
  String.ofList (Nat.toDigits 10 n) ++ ordinalSuffix n

end IngestViewer
