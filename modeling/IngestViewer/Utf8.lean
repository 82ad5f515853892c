namespace IngestViewer.Utf8

/-- A character whose first bytes have been read: their bits, how many bytes are still missing,
and the range that the next one has to lie in. -/
structure Pending where
  bits : Nat
  missing : Nat
  low : Nat
  high : Nat

/-- What a byte in first position stands for: a whole character, the start of one, or neither. -/
def lead (b : Nat) : List (Option Char) × Option Pending :=
  if b < 0x80 then ([some (Char.ofNat b)], none)
  else if b < 0xC2 then ([none], none)
  else if b < 0xE0 then ([], some ⟨b % 0x20, 1, 0x80, 0xBF⟩)
  else if b < 0xF0 then
    ([], some ⟨b % 0x10, 2, if b = 0xE0 then 0xA0 else 0x80, if b = 0xED then 0x9F else 0xBF⟩)
  else if b < 0xF5 then
    ([], some ⟨b % 0x08, 3, if b = 0xF0 then 0x90 else 0x80, if b = 0xF4 then 0x8F else 0xBF⟩)
  else ([none], none)

/-- Reads one byte. A byte that cannot continue the pending character ends it as a bad one and
stands in first position itself. -/
def push (pending : Option Pending) (b : Nat) : List (Option Char) × Option Pending :=
  match pending with
  | none => lead b
  | some p =>
    if p.low ≤ b ∧ b ≤ p.high then
      let bits := p.bits * 0x40 + b % 0x40
      if p.missing ≤ 1 then ([some (Char.ofNat bits)], none)
      else ([], some ⟨bits, p.missing - 1, 0x80, 0xBF⟩)
    else
      let (out, next) := lead b
      (none :: out, next)

def decodeFrom : Option Pending → List UInt8 → List (Option Char)
  | none, [] => []
  | some _, [] => [none]
  | pending, b :: bs =>
    let (out, next) := push pending b.toNat
    out ++ decodeFrom next bs

/-- The characters of a byte sequence, with `none` for each longest run of bytes that begins a
character without completing it, and for each byte that begins none. -/
def decode (bytes : List UInt8) : List (Option Char) :=
  decodeFrom none bytes

/-- The text of a byte sequence, with U+FFFD in place of the bytes that are no text. -/
def lossyText (bytes : List UInt8) : String :=
  String.ofList ((decode bytes).map (·.getD '\uFFFD'))

/-- The text of a byte sequence that is one. -/
def text? (bytes : List UInt8) : Option String :=
  ((decode bytes).mapM id).map String.ofList

/-- The bytes of a text. -/
def bytes (s : String) : List UInt8 :=
  s.toUTF8.toList

example : lossyText [0x61, 0xE2, 0x82, 0x62, 0xF0, 0x9F] = "a\uFFFDb\uFFFD" := by decide

end IngestViewer.Utf8
