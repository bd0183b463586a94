/-
AlertRelay/Text/Pieces.lean

Cutting a text at separators.

A text with `n` separators has `n + 1` pieces, so a separator at an end, or two in a row, give
empty ones.
-/

namespace AlertRelay

/-- The pieces of a text between its separators. -/
def pieces (separates : Char → Bool) : List Char → List (List Char)
  | [] => [[]]
  | c :: rest =>
    if separates c then [] :: pieces separates rest
    else
      match pieces separates rest with
      | [] => [[c]]
      | p :: ps => (c :: p) :: ps

theorem pieces_ne_nil (separates : Char → Bool) (s : List Char) : pieces separates s ≠ [] := by
  cases s with
  | nil => simp [pieces]
  | cons c rest =>
    unfold pieces
    split
    · simp
    · split <;> simp

/-- Pieces with the separator between them are the text. -/
theorem intercalate_pieces (c : Char) (s : List Char) :
    List.intercalate [c] (pieces (· = c) s) = s := by
  induction s with
  | nil => simp [pieces]
  | cons d rest ih =>
    have hne := pieces_ne_nil (· = c) rest
    unfold pieces
    rcases h : pieces (fun x => decide (x = c)) rest with - | ⟨p, ps⟩
    · exact absurd h hne
    · rw [h] at ih
      by_cases hd : d = c
      · simp only [hd, decide_true, if_true]
        rw [← ih]
        simp [List.intercalate, List.intersperse]
      · simp only [hd, decide_false, Bool.false_eq_true, if_false]
        rw [← ih]
        cases ps <;> simp [List.intercalate, List.intersperse]

end AlertRelay
