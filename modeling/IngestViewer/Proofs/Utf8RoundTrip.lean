import IngestViewer.Utf8

namespace IngestViewer.Utf8

theorem toList_loop (b : ByteArray) (i : Nat) (read : List UInt8) :
    ByteArray.toList.loop b i read = read.reverse ++ b.data.toList.drop i := by
  fun_induction ByteArray.toList.loop b i read with
  | case1 i read inside ih =>
    have inside : i < b.data.toList.length := by simpa using inside
    have here : b.get! i = b.data.toList[i] := by
      have at' : b.get! i = b.data[i]! := rfl
      rw [at', getElem!_pos b.data i (by simpa using inside)]
      rfl
    rw [ih, here, List.drop_eq_getElem_cons inside]
    simp
  | case2 i read outside =>
    have done : b.data.toList.length ≤ i := by simpa using outside
    rw [List.drop_eq_nil_of_le done, List.append_nil]

theorem bytes_eq (s : String) : bytes s = s.toList.flatMap String.utf8EncodeChar := by
  have whole : s.toByteArray = (s.toList.flatMap String.utf8EncodeChar).toByteArray := by
    conv => lhs; rw [← String.ofList_toList (s := s)]
    rw [String.toByteArray_ofList]
    rfl
  rw [bytes, String.toUTF8, ByteArray.toList, toList_loop, whole]
  simp

theorem decodeFrom_cons (pending : Option Pending) (b : UInt8) (bs : List UInt8) :
    decodeFrom pending (b :: bs) =
      (push pending b.toNat).1 ++ decodeFrom (push pending b.toNat).2 bs := by
  cases pending <;> rfl

theorem decodeFrom_last {p : Pending} {b : Nat} (last : p.missing = 1) (low : p.low ≤ b)
    (high : b ≤ p.high) (byte : b < 256) (rest : List UInt8) :
    decodeFrom (some p) (UInt8.ofNat b :: rest) =
      some (Char.ofNat (p.bits * 0x40 + b % 0x40)) :: decodeFrom none rest := by
  have value : (UInt8.ofNat b).toNat = b := by rw [UInt8.toNat_ofNat']; omega
  simp [decodeFrom_cons, value, push, low, high, last]

theorem decodeFrom_inner {p : Pending} {b : Nat} (more : 1 < p.missing) (low : p.low ≤ b)
    (high : b ≤ p.high) (byte : b < 256) (rest : List UInt8) :
    decodeFrom (some p) (UInt8.ofNat b :: rest) =
      decodeFrom (some ⟨p.bits * 0x40 + b % 0x40, p.missing - 1, 0x80, 0xBF⟩) rest := by
  have value : (UInt8.ofNat b).toNat = b := by rw [UInt8.toNat_ofNat']; omega
  have more : ¬p.missing ≤ 1 := by omega
  simp [decodeFrom_cons, value, push, low, high, more]

theorem decodeFrom_first {b : Nat} {p : Pending} (opens : lead b = ([], some p)) (byte : b < 256)
    (rest : List UInt8) :
    decodeFrom none (UInt8.ofNat b :: rest) = decodeFrom (some p) rest := by
  have value : (UInt8.ofNat b).toNat = b := by rw [UInt8.toNat_ofNat']; omega
  simp [decodeFrom_cons, value, push, opens]

theorem decodeFrom_two {v : Nat} (low : 0x7F < v) (high : v ≤ 0x7FF) (rest : List UInt8) :
    decodeFrom none (UInt8.ofNat (v / 64 % 32 + 192) :: UInt8.ofNat (v % 64 + 128) :: rest) =
      some (Char.ofNat v) :: decodeFrom none rest := by
  have opens : lead (v / 64 % 32 + 192) = ([], some ⟨v / 64, 1, 0x80, 0xBF⟩) := by
    have bits : (v / 64 % 32 + 192) % 0x20 = v / 64 := by omega
    rw [lead, if_neg (by omega), if_neg (by omega), if_pos (by omega), bits]
  have value : v / 64 * 0x40 + (v % 64 + 128) % 0x40 = v := by omega
  rw [decodeFrom_first opens (by omega), decodeFrom_last rfl (by simp) (by dsimp; omega) (by omega),
    value]

theorem decodeFrom_three {v : Nat} (low : 0x7FF < v) (high : v ≤ 0xFFFF)
    (range : v < 0xD800 ∨ 0xDFFF < v) (rest : List UInt8) :
    decodeFrom none (UInt8.ofNat (v / 4096 % 16 + 224) :: UInt8.ofNat (v / 64 % 64 + 128) ::
        UInt8.ofNat (v % 64 + 128) :: rest) =
      some (Char.ofNat v) :: decodeFrom none rest := by
  have opens : lead (v / 4096 % 16 + 224) = ([], some ⟨v / 4096, 2,
      if v / 4096 = 0 then 0xA0 else 0x80, if v / 4096 = 13 then 0x9F else 0xBF⟩) := by
    have bits : (v / 4096 % 16 + 224) % 0x10 = v / 4096 := by omega
    have lowest : v / 4096 % 16 + 224 = 0xE0 ↔ v / 4096 = 0 := by omega
    have highest : v / 4096 % 16 + 224 = 0xED ↔ v / 4096 = 13 := by omega
    rw [lead, if_neg (by omega), if_neg (by omega), if_neg (by omega), if_pos (by omega), bits]
    simp only [lowest, highest]
  have value : (v / 4096 * 0x40 + (v / 64 % 64 + 128) % 0x40) * 0x40 + (v % 64 + 128) % 0x40 = v := by
    omega
  rw [decodeFrom_first opens (by omega),
    decodeFrom_inner (by simp) (by dsimp; split <;> omega) (by dsimp; split <;> omega) (by omega),
    decodeFrom_last rfl (by simp) (by dsimp; omega) (by omega), value]

theorem decodeFrom_four {v : Nat} (low : 0xFFFF < v) (high : v < 0x110000) (rest : List UInt8) :
    decodeFrom none (UInt8.ofNat (v / 262144 % 8 + 240) :: UInt8.ofNat (v / 4096 % 64 + 128) ::
        UInt8.ofNat (v / 64 % 64 + 128) :: UInt8.ofNat (v % 64 + 128) :: rest) =
      some (Char.ofNat v) :: decodeFrom none rest := by
  have opens : lead (v / 262144 % 8 + 240) = ([], some ⟨v / 262144, 3,
      if v / 262144 = 0 then 0x90 else 0x80, if v / 262144 = 4 then 0x8F else 0xBF⟩) := by
    have bits : (v / 262144 % 8 + 240) % 0x08 = v / 262144 := by omega
    have lowest : v / 262144 % 8 + 240 = 0xF0 ↔ v / 262144 = 0 := by omega
    have highest : v / 262144 % 8 + 240 = 0xF4 ↔ v / 262144 = 4 := by omega
    rw [lead, if_neg (by omega), if_neg (by omega), if_neg (by omega), if_neg (by omega),
      if_pos (by omega), bits]
    simp only [lowest, highest]
  have value : ((v / 262144 * 0x40 + (v / 4096 % 64 + 128) % 0x40) * 0x40 +
      (v / 64 % 64 + 128) % 0x40) * 0x40 + (v % 64 + 128) % 0x40 = v := by omega
  rw [decodeFrom_first opens (by omega),
    decodeFrom_inner (by simp) (by dsimp; split <;> omega) (by dsimp; split <;> omega) (by omega),
    decodeFrom_inner (by simp) (by simp) (by dsimp; omega) (by omega),
    decodeFrom_last rfl (by simp) (by dsimp; omega) (by omega), value]

/-- The bytes of a character are read back as that character, whatever follows them. -/
theorem decodeFrom_utf8EncodeChar (c : Char) (rest : List UInt8) :
    decodeFrom none (String.utf8EncodeChar c ++ rest) = some c :: decodeFrom none rest := by
  have range : c.val.toNat < 0xD800 ∨ 0xDFFF < c.val.toNat ∧ c.val.toNat < 0x110000 := by
    simpa [UInt32.isValidChar, Nat.isValidChar] using c.valid
  have same : Char.ofNat c.val.toNat = c := Char.ofNat_toNat c
  simp only [String.utf8EncodeChar]
  generalize c.val.toNat = v at range same ⊢
  subst same
  split
  · have value : (UInt8.ofNat v).toNat = v := by rw [UInt8.toNat_ofNat']; omega
    have whole : lead v = ([some (Char.ofNat v)], none) := by rw [lead, if_pos (by omega)]
    simp [decodeFrom_cons, value, push, whole]
  · split
    · exact decodeFrom_two (by omega) (by omega) rest
    · split
      · exact decodeFrom_three (by omega) (by omega) (by omega) rest
      · exact decodeFrom_four (by omega) (by omega) rest

theorem decode_bytes (s : String) : decode (bytes s) = s.toList.map some := by
  rw [bytes_eq]
  induction s.toList with
  | nil => rfl
  | cons c cs ih =>
    rw [decode, List.flatMap_cons, decodeFrom_utf8EncodeChar, ← decode, ih, List.map_cons]

theorem text?_bytes (s : String) : text? (bytes s) = some s := by
  have all (cs : List Char) : (cs.map some).mapM id = some cs := by
    induction cs with
    | nil => rfl
    | cons c cs ih => simp [ih]
  rw [text?, decode_bytes, all]
  simp

theorem lossyText_bytes (s : String) : lossyText (bytes s) = s := by
  rw [lossyText, decode_bytes, List.map_map]
  simp [Function.comp_def]

end IngestViewer.Utf8
