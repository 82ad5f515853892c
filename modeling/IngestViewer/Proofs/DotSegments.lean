import IngestViewer.Proofs.LetterCase
import IngestViewer.Proofs.WebUrl

namespace IngestViewer.Url

open PercentEncoding

/-- A dot has one byte in each of its spellings. -/
theorem decode_dot_append {cs : List Char}
    (h : cs.map Char.toLower = ['.'] ∨ cs.map Char.toLower = ['%', '2', 'e']) (rest : List Char) :
    decode (cs ++ rest) = 0x2E :: decode rest := by
  obtain plain | code := h
  · obtain ⟨c, cs, rfl, dot, none⟩ := List.map_eq_cons_iff.mp plain
    obtain rfl := List.map_eq_nil_iff.mp none
    obtain rfl := eq_of_toLower dot (by decide)
    exact decode_cons (by decide) rest
  · obtain ⟨c, cs, rfl, percent, code⟩ := List.map_eq_cons_iff.mp code
    obtain ⟨d, cs, rfl, two, code⟩ := List.map_eq_cons_iff.mp code
    obtain ⟨e, cs, rfl, letter, none⟩ := List.map_eq_cons_iff.mp code
    obtain rfl := List.map_eq_nil_iff.mp none
    obtain rfl := eq_of_toLower percent (by decide)
    obtain rfl := eq_of_toLower two (by decide)
    obtain rfl | rfl := eq_of_toLower_e letter
    · rfl
    · rfl

theorem decode_of_isDot {s : String} (h : isDot s = true) : decode s.toList = [0x2E] := by
  have spelled : s.toList.map Char.toLower = ['.'] ∨
      s.toList.map Char.toLower = ['%', '2', 'e'] := by
    rw [← String.toList_map]
    simp only [isDot, Bool.or_eq_true, beq_iff_eq] at h
    obtain plain | code := h
    · exact .inl (congrArg String.toList plain)
    · exact .inr (congrArg String.toList code)
  have bytes := decode_dot_append spelled []
  rwa [List.append_nil] at bytes

theorem decode_of_isDoubleDot {s : String} (h : isDoubleDot s = true) :
    decode s.toList = [0x2E, 0x2E] := by
  have spelled : ∃ a b, s.toList.map Char.toLower = a ++ b ∧
      (a = ['.'] ∨ a = ['%', '2', 'e']) ∧ (b = ['.'] ∨ b = ['%', '2', 'e']) := by
    rw [← String.toList_map]
    simp only [isDoubleDot, List.mem_cons, List.not_mem_nil, or_false, decide_eq_true_eq] at h
    obtain plain | second | first | both := h
    · exact ⟨['.'], ['.'], congrArg String.toList plain, .inl rfl, .inl rfl⟩
    · exact ⟨['%', '2', 'e'], ['.'], congrArg String.toList second, .inr rfl, .inl rfl⟩
    · exact ⟨['.'], ['%', '2', 'e'], congrArg String.toList first, .inl rfl, .inr rfl⟩
    · exact ⟨['%', '2', 'e'], ['%', '2', 'e'], congrArg String.toList both, .inr rfl, .inr rfl⟩
  obtain ⟨a, b, whole, first, second⟩ := spelled
  obtain ⟨cs, ds, text, rfl, rfl⟩ := List.map_eq_append_iff.mp whole
  have last := decode_dot_append second []
  rw [List.append_nil] at last
  rw [text, decode_dot_append first, last]
  rfl

theorem isSegment_encode {cs : List Char} (dot : cs ≠ ['.']) (doubleDot : cs ≠ ['.', '.']) :
    IsSegment (String.ofList (encode inSpecialSegment cs)) := by
  have bytes := @decode_encode inSpecialSegment rfl cs
  refine isSegment_of_encode (fun x plain => ?_)
    (fun c _ stands => apart_of_taken (by decide) stands.2.2) ⟨?_, ?_⟩
  · simp only [inSpecialSegment, inSegment, Bool.or_eq_false_iff] at plain
    exact plain.1.1
  · cases h : isDot (String.ofList (encode inSpecialSegment cs)) with
    | false => rfl
    | true =>
      have same := decode_of_isDot h
      rw [String.toList_ofList, bytes] at same
      exact absurd (@eq_of_bytes cs ['.'] same) dot
  · cases h : isDoubleDot (String.ofList (encode inSpecialSegment cs)) with
    | false => rfl
    | true =>
      have same := decode_of_isDoubleDot h
      rw [String.toList_ofList, bytes] at same
      exact absurd (@eq_of_bytes cs ['.', '.'] same) doubleDot

end IngestViewer.Url
