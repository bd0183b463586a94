/-
AlertRelay/Proofs/Text/Cut.lean

Where a text is cut.

A reader cuts a text where a character comes that it does not take.  It gets the part that was
meant if everything within is taken and what follows begins with something that is not
(`takeWhile_append_of_stop`).  A text is also cut at its first separator, and at all of them, and
the blanks at its ends are cut off.
-/
import AlertRelay.Address
import AlertRelay.Text.Blank
import AlertRelay.Text.Pieces

namespace AlertRelay

/-! ### At a character that is not taken -/

variable {α : Type} {test : α → Bool} {front rest : List α}

/-- What is taken ends where something comes that is not. -/
theorem takeWhile_append_of_stop (hfront : ∀ a ∈ front, test a = true)
    (hrest : ∀ a ∈ rest.head?, test a = false) : (front ++ rest).takeWhile test = front := by
  rw [List.takeWhile_append_of_pos hfront]
  cases rest with
  | nil => simp
  | cons a rest => simp [hrest a rfl]

theorem dropWhile_append_of_stop (hfront : ∀ a ∈ front, test a = true)
    (hrest : ∀ a ∈ rest.head?, test a = false) : (front ++ rest).dropWhile test = rest := by
  rw [List.dropWhile_append_of_pos hfront]
  cases rest with
  | nil => rfl
  | cons a rest => simp [hrest a rfl]

/-- Without a stop everything is taken. -/
theorem takeWhile_eq_self (hfront : ∀ a ∈ front, test a = true) : front.takeWhile test = front := by
  have htake : (front ++ []).takeWhile test = front := takeWhile_append_of_stop hfront (by simp)
  rwa [List.append_nil] at htake

/-! ### At separators -/

/-- A list is split at the first occurrence. -/
theorem splitOnce?_eq_some_iff {α : Type} [DecidableEq α] {a : α} {xs before after : List α} :
    splitOnce? a xs = some (before, after) ↔ xs = before ++ a :: after ∧ a ∉ before := by
  induction xs generalizing before after with
  | nil => simp [splitOnce?]
  | cons b xs ih =>
    unfold splitOnce?
    split
    · rename_i hb
      subst hb
      constructor
      · intro h
        cases h
        exact ⟨rfl, List.not_mem_nil⟩
      · rintro ⟨hxs, hnot⟩
        cases before with
        | nil =>
          cases hxs
          rfl
        | cons c before =>
          cases hxs
          exact absurd List.mem_cons_self hnot
    · rename_i hb
      simp only [Option.map_eq_some_iff, Prod.exists, Prod.mk.injEq, ih]
      constructor
      · rintro ⟨before, after, ⟨rfl, hnot⟩, rfl, rfl⟩
        refine ⟨rfl, ?_⟩
        rw [List.mem_cons, not_or]
        exact ⟨fun heq => hb heq.symm, hnot⟩
      · rintro ⟨hxs, hnot⟩
        cases before with
        | nil =>
          cases hxs
          exact absurd rfl hb
        | cons c before =>
          cases hxs
          exact ⟨before, _, ⟨rfl, fun hmem => hnot (List.mem_cons_of_mem b hmem)⟩, rfl, rfl⟩

theorem pieces_eq_self {separates : Char → Bool} {cs : List Char}
    (h : ∀ c ∈ cs, separates c = false) : pieces separates cs = [cs] := by
  induction cs with
  | nil => rfl
  | cons c cs ih =>
    rw [List.forall_mem_cons] at h
    simp [pieces, h.1, ih h.2]

/-! ### Blanks at the ends -/

/-- Characters begin with blanks and go on with none. -/
theorem exists_dropBlanks (cs : List Char) :
    ∃ before, cs = before ++ cs.dropWhile isBlank ∧ (∀ c ∈ before, isBlank c = true) ∧
      ∀ c ∈ (cs.dropWhile isBlank).head?, isBlank c = false := by
  refine ⟨cs.takeWhile isBlank, List.takeWhile_append_dropWhile.symm,
    List.all_eq_true.1 List.all_takeWhile, ?_⟩
  intro c hc
  have hstop := List.head?_dropWhile_not isBlank cs
  rw [Option.mem_def.1 hc] at hstop
  simpa using hstop

/-- **Blanks around a text** are left out, and nothing else is. -/
theorem exists_trimmed (text : String) :
    ∃ before after : String, text = before ++ trimmed text ++ after ∧
      (∀ c ∈ before.toList, isBlank c = true) ∧ (∀ c ∈ after.toList, isBlank c = true) ∧
      (∀ c ∈ (trimmed text).toList.head?, isBlank c = false) ∧
      ∀ c ∈ (trimmed text).toList.getLast?, isBlank c = false := by
  obtain ⟨before, hfront, hbefore, hhead⟩ := exists_dropBlanks text.toList
  obtain ⟨after, hback, hafter, hlast⟩ := exists_dropBlanks (text.toList.dropWhile isBlank).reverse
  have hkept : text.toList.dropWhile isBlank = trimBlanks text.toList ++ after.reverse := by
    rw [← List.reverse_inj, hback]
    simp [trimBlanks]
  have htrimmed : (trimmed text).toList = trimBlanks text.toList := by
    rw [trimmed, String.toList_ofList]
  refine ⟨String.ofList before, String.ofList after.reverse, ?_, ?_, ?_, ?_, ?_⟩
  · rw [← String.toList_inj]
    simp only [String.toList_append, String.toList_ofList, htrimmed, List.append_assoc]
    rw [← hkept, ← hfront]
  · simpa using hbefore
  · simpa using hafter
  · intro c hc
    rw [htrimmed] at hc
    refine hhead c ?_
    rw [hkept]
    simp [Option.mem_def.1 hc]
  · rw [htrimmed, trimBlanks, List.getLast?_reverse]
    exact hlast

end AlertRelay
