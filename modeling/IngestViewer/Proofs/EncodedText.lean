import IngestViewer.PercentEncoding
import IngestViewer.Proofs.Utf8RoundTrip

namespace IngestViewer.PercentEncoding

variable {special : Char → Bool}

/-- Whether a character is written as it is, where some are not. -/
def Stands (special : Char → Bool) (c : Char) : Prop :=
  0x20 ≤ c.toNat ∧ c.toNat < 0x7F ∧ special c = false

/-- The characters in which bytes are written. -/
def codeChars : List Char := "%0123456789ABCDEF".toList

/-- What is true of none of some characters is checked one by one. -/
theorem eq_false_of_any {p : Char → Bool} {cs : List Char} (h : cs.any p = false) :
    ∀ c ∈ cs, p c = false := by
  simpa using h

theorem hexDigit_mem : ∀ n < 16, hexDigit n ∈ codeChars := by decide

theorem hexValue?_hexDigit : ∀ n < 16, hexValue? (hexDigit n) = some n := by decide

theorem mem_encodeByte {x : Char} {b : UInt8} (h : x ∈ encodeByte b) : x ∈ codeChars := by
  have byte : b.toNat < 256 := b.toNat_lt
  simp only [encodeByte, List.mem_cons, List.not_mem_nil, or_false] at h
  obtain rfl | rfl | rfl := h
  · decide
  · exact hexDigit_mem _ (by omega)
  · exact hexDigit_mem _ (by omega)

theorem encodeChar_of_stands {c : Char} (h : Stands special c) : encodeChar special c = [c] := by
  obtain ⟨low, high, plain⟩ := h
  have low : ¬c.toNat < 0x20 := by omega
  have high : ¬0x7F ≤ c.toNat := by omega
  simp [encodeChar, low, high, plain]

theorem encodeChar_of_not_stands {c : Char} (h : ¬Stands special c) :
    encodeChar special c = (String.utf8EncodeChar c).flatMap encodeByte := by
  rw [encodeChar]
  split
  · rfl
  next plain =>
    simp only [Bool.or_eq_true, decide_eq_true_eq, not_or, Bool.not_eq_true] at plain
    exact absurd ⟨by omega, by omega, plain.2⟩ h

/-- What is written is a part of a code, or a character that was there and stands. -/
theorem mem_encode {x : Char} {cs : List Char} (h : x ∈ encode special cs) :
    x ∈ codeChars ∨ x ∈ cs ∧ Stands special x := by
  obtain ⟨c, inside, written⟩ := List.mem_flatMap.mp h
  by_cases stands : Stands special c
  · rw [encodeChar_of_stands stands, List.mem_singleton] at written
    exact .inr (written ▸ ⟨inside, stands⟩)
  · rw [encodeChar_of_not_stands stands] at written
    obtain ⟨b, -, part⟩ := List.mem_flatMap.mp written
    exact .inl (mem_encodeByte part)

theorem encode_of_stands {cs : List Char} (h : ∀ c ∈ cs, Stands special c) :
    encode special cs = cs := by
  induction cs with
  | nil => rfl
  | cons c cs ih =>
    have rest := ih fun d inside => h d (List.mem_cons_of_mem _ inside)
    rw [encode, List.flatMap_cons, encodeChar_of_stands (h c List.mem_cons_self), ← encode, rest]
    rfl

/-- What has been written for one part is written for another in which no more stands out. -/
theorem stands_of_mem_encode {other : Char → Bool} {cs : List Char}
    (codes : ∀ x ∈ codeChars, other x = false) (fewer : ∀ x, special x = false → other x = false)
    {x : Char} (h : x ∈ encode special cs) : Stands other x := by
  obtain code | ⟨-, low, high, plain⟩ := mem_encode h
  · have hidden := eq_false_of_any (p := fun x => x.toNat < 0x20 || 0x7F ≤ x.toNat)
      (by decide : codeChars.any _ = false) x code
    simp only [Bool.or_eq_false_iff, decide_eq_false_iff_not] at hidden
    exact ⟨by omega, by omega, codes x code⟩
  · exact ⟨low, high, fewer x plain⟩

theorem decode_encodeByte (b : UInt8) (rest : List Char) :
    decode (encodeByte b ++ rest) = b :: decode rest := by
  have byte : b.toNat < 256 := b.toNat_lt
  have high := hexValue?_hexDigit (b.toNat / 16) (by omega)
  have low := hexValue?_hexDigit (b.toNat % 16) (by omega)
  have whole : b.toNat / 16 * 16 + b.toNat % 16 = b.toNat := by omega
  simp [encodeByte, decode, high, low, whole]

theorem decode_encodeBytes (bs : List UInt8) (rest : List Char) :
    decode (bs.flatMap encodeByte ++ rest) = bs ++ decode rest := by
  induction bs with
  | nil => rfl
  | cons b bs ih =>
    rw [List.flatMap_cons, List.append_assoc, decode_encodeByte, ih, List.cons_append]

theorem decode_cons {c : Char} (other : c ≠ '%') (rest : List Char) :
    decode (c :: rest) = String.utf8EncodeChar c ++ decode rest := by
  rw [decode]
  intro a b cs percent
  exact absurd percent other

/-- Where percent signs do not stand, the bytes of a text can be told from what is written. -/
theorem decode_encode (percent : special '%' = true) (cs : List Char) :
    decode (encode special cs) = cs.flatMap String.utf8EncodeChar := by
  induction cs with
  | nil => rfl
  | cons c cs ih =>
    rw [encode, List.flatMap_cons, ← encode, List.flatMap_cons]
    by_cases stands : Stands special c
    · have other : c ≠ '%' := by
        rintro rfl
        rw [stands.2.2] at percent
        cases percent
      rw [encodeChar_of_stands stands, List.singleton_append, decode_cons other, ih]
    · rw [encodeChar_of_not_stands stands, decode_encodeBytes, ih]

theorem eq_of_bytes {cs ds : List Char}
    (h : cs.flatMap String.utf8EncodeChar = ds.flatMap String.utf8EncodeChar) : cs = ds := by
  have same : Utf8.bytes (String.ofList cs) = Utf8.bytes (String.ofList ds) := by
    rw [Utf8.bytes_eq, Utf8.bytes_eq, String.toList_ofList, String.toList_ofList, h]
  have texts := congrArg Utf8.lossyText same
  rw [Utf8.lossyText_bytes, Utf8.lossyText_bytes] at texts
  exact String.ofList_injective texts

theorem encode_eq_nil (percent : special '%' = true) {cs : List Char} :
    encode special cs = [] ↔ cs = [] := by
  constructor
  · intro nothing
    have bytes := decode_encode percent cs
    rw [nothing] at bytes
    exact eq_of_bytes bytes.symm
  · rintro rfl
    rfl

end IngestViewer.PercentEncoding
