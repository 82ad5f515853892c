import IngestViewer.JsonWriter
import IngestViewer.Proofs.JsonTokens

namespace IngestViewer.Json

/-- What a character of a literal is read as once it has been written. -/
def pieceOf (c : Char) : Piece :=
  if (escape c).length = 6 then .unit c.toNat else .char c

theorem hexUnit?_hexChar :
    ∀ n < 0x20, hexUnit? '0' '0' (hexChar (n / 16)) (hexChar n) = some n := by
  decide

theorem spellsPiece_escape (c : Char) : SpellsPiece (pieceOf c) (escape c) := by
  unfold pieceOf
  rw [escape.eq_def]
  split
  case h_8 quote backslash _ _ _ _ _ =>
    split
    next control => exact .unit (hexUnit?_hexChar _ control)
    next control => exact .plain quote backslash control
  all_goals exact .letter rfl

theorem spellsPieces_flatMap_escape (cs : List Char) :
    SpellsPieces (cs.map pieceOf) (cs.flatMap escape) := by
  induction cs with
  | nil => exact .nil
  | cons c cs ih => exact .cons (spellsPiece_escape c) ih

/-- Only control characters are written as code units. -/
theorem pieceOf_eq (c : Char) :
    pieceOf c = .char c ∨ pieceOf c = .unit c.toNat ∧ c.toNat < 0x20 := by
  unfold pieceOf
  rw [escape.eq_def]
  split
  case h_8 =>
    split
    next hc => exact .inr ⟨rfl, hc⟩
    next => exact .inl rfl
  all_goals exact .inl rfl

theorem joinPieces_unit {n : Nat} (h : n < 0x20) (ps : List Piece) :
    joinPieces (.unit n :: ps) = (joinPieces ps).map (Char.ofNat n :: ·) := by
  have high : isHighHalf n = false := by simp [isHighHalf]; omega
  have low : isLowHalf n = false := by simp [isLowHalf]; omega
  rw [joinPieces.eq_def]
  split
  all_goals grind

theorem joinPieces_pieceOf (c : Char) (ps : List Piece) :
    joinPieces (pieceOf c :: ps) = (joinPieces ps).map (c :: ·) := by
  rcases pieceOf_eq c with h | ⟨h, hc⟩
  · rw [h, joinPieces]
  · rw [h, joinPieces_unit hc, Char.ofNat_toNat]

theorem joinPieces_map_pieceOf (cs : List Char) : joinPieces (cs.map pieceOf) = some cs := by
  induction cs with
  | nil => rfl
  | cons c cs ih => rw [List.map_cons, joinPieces_pieceOf, ih, Option.map_some]

theorem spellsLiteral_writeLiteral (s : Literal) : SpellsLiteral s (writeLiteral s) := by
  cases s with
  | some s =>
    refine ⟨_, _, spellsPieces_flatMap_escape s.toList, ?_, rfl⟩
    rw [joinPieces_map_pieceOf, Option.map_some, String.ofList_toList]
  | none => exact ⟨_, _, .cons (.unit rfl) .nil, rfl, rfl⟩

end IngestViewer.Json
