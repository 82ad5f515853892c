import IngestViewer.PhraseTable
import IngestViewer.Proofs.OrdinalEndings
import IngestViewer.Proofs.TimestampSpelling
import Std.Data.String.ToInt

namespace IngestViewer

theorem decimalText_eq (n : Nat) : decimalText n = n.repr :=
  Nat.repr_eq_ofList_toDigits.symm

theorem yearText_eq (year : Int) : yearText year = year.repr := by
  rw [yearText, decimalText_eq, Int.repr_eq_if]
  split
  next before =>
    have size : year.natAbs = (-year).toNat := by omega
    rw [if_neg (by omega), size]
  next =>
    have size : year.natAbs = year.toNat := by omega
    rw [if_pos (by omega), size, String.empty_append]

theorem twoDigitText_eq {n : Nat} (small : n < 100) :
    twoDigitText n = String.ofList (Timestamp.pair n) := by
  rw [twoDigitText, Timestamp.pair]
  split
  next single =>
    have tens : n / 10 = 0 := by omega
    have ones : n % 10 = n := by omega
    rw [Nat.toDigits_of_lt_base single, tens, ones]
    rfl
  next =>
    have front : n / 10 < 10 := by omega
    rw [Nat.toDigits_of_base_le (by decide) (by omega), Nat.toDigits_of_lt_base front]
    rfl

theorem pair_inj {m n : Nat} (hm : m < 100) (hn : n < 100)
    (same : Timestamp.pair m = Timestamp.pair n) : m = n := by
  obtain ⟨tens, others⟩ := List.cons.inj same
  obtain ⟨ones, -⟩ := List.cons.inj others
  have tens := digitChar_inj (by omega) (by omega) tens
  have ones := digitChar_inj (by omega) (by omega) ones
  omega

theorem not_mem_pair {mark : Char} (other : mark.isDigit = false) {n : Nat} (small : n < 100) :
    mark ∉ Timestamp.pair n := by
  have apart {d : Nat} (digit : d < 10) : mark ≠ Nat.digitChar d := by
    rintro rfl
    rw [Nat.isDigit_digitChar, decide_eq_false_iff_not] at other
    exact other digit
  rw [Timestamp.pair, List.mem_cons, List.mem_singleton]
  exact fun inside => inside.elim (apart (by omega)) (apart (by omega))

end IngestViewer
