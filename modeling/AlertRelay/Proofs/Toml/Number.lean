/-
AlertRelay/Proofs/Toml/Number.lean

Whole numbers of a TOML document, read back as they were written.

Dates, times and fractions are tried before whole numbers, and all of them begin with digits.  What
tells them apart is a mark behind some of the digits: a dash or a colon, a point or the letter of an
exponent.  A number at the end of a line has nothing but digits after its first character, so a
reader of any other kind misses its mark (`after_fixedDigits`).
-/
import AlertRelay.Proofs.Number.Decimal
import AlertRelay.Proofs.Toml.Text
import AlertRelay.Toml.Number

namespace AlertRelay

namespace Toml

/-! ### Digits -/

theorem isDigit_eq (c : Char) : isDigit c = c.isDigit :=
  Decimal.isSome_digit? c

theorem hexadecimalDigit?_of_isDigit {c : Char} (h : isDigit c = true) :
    Hexadecimal.digit? c = some (c.toNat - '0'.toNat) := by
  have hrange : '0' ≤ c ∧ c ≤ '9' := by simpa [isDigit_eq, Char.isDigit, Char.le_def] using h
  rw [Hexadecimal.digit?, if_pos hrange]

theorem isDigit_of_mem_toDigits {n : Nat} : ∀ c ∈ Nat.toDigits 10 n, isDigit c = true := by
  intro c hc
  rw [isDigit_eq]
  exact Nat.isDigit_of_mem_toDigits (by omega) (Nat.le_refl 10) hc

/-- Only digits spell a number. -/
theorem isDigit_of_value? {cs : List Char} {n : Nat} (h : Decimal.value? cs = some n) :
    ∀ c ∈ cs, isDigit c = true := by
  intro c hc
  rw [isDigit_eq]
  exact (Decimal.value?_eq_some_iff.1 h).2.1 c hc

/-- Digits are taken to the last. -/
theorem moreDigits_append {ds : List Char} (h : ∀ c ∈ ds, isDigit c = true) (rest : List Char) :
    moreDigits isDigit (ds ++ '\n' :: rest) = some (ds, '\n' :: rest) := by
  induction ds with
  | nil => rfl
  | cons c ds ih =>
    have hc := h c List.mem_cons_self
    have hlater := ih fun d hd => h d (List.mem_cons_of_mem c hd)
    have hscore : c ≠ '_' := by
      rintro rfl
      cases hc
    rw [List.cons_append, moreDigits, if_pos hc, hlater]
    · rfl
    all_goals simp [hscore]

/-- **The digits of a number** are taken to the last. -/
theorem decimalDigits_toDigits (n : Nat) (rest : List Char) :
    decimalDigits (Nat.toDigits 10 n ++ '\n' :: rest) = some (Nat.toDigits 10 n, '\n' :: rest) := by
  rcases Nat.eq_zero_or_pos n with rfl | hn
  · rfl
  · -- a zero in front would have to stand alone
    obtain ⟨c, cs, hcs, hzero⟩ := Json.toDigits_eq_cons hn
    obtain ⟨hc, hrest⟩ := List.forall_mem_cons.1 (hcs ▸ isDigit_of_mem_toDigits (n := n))
    rw [hcs, List.cons_append, decimalDigits, digits, if_pos hc, moreDigits_append hrest]
    · rfl
    · simp [hzero]

theorem valueIn_toDigits (n : Nat) : valueIn 10 (Nat.toDigits 10 n) = n := by
  have hvalue := Nat.ofDigitChars_ten_toDigits (n := n)
  rw [Nat.ofDigitChars_eq_foldl] at hvalue
  refine Eq.trans (List.foldl_ext _ _ _ ?_) hvalue
  intro sofar c hc
  rw [hexadecimalDigit?_of_isDigit (isDigit_of_mem_toDigits c hc), Option.getD_some, Nat.mul_comm]

/-! ### Other kinds of numbers -/

/-- Some digits are what stands first, and the rest is what is left. -/
theorem fixedDigits_eq_some {count least greatest n : Nat} {s left : List Char}
    (h : fixedDigits count least greatest s = some (n, left)) :
    (∀ c ∈ s.take count, isDigit c = true) ∧ s.drop count = left := by
  unfold fixedDigits at h
  cases hvalue : Decimal.value? (s.take count) with
  | none => simp [hvalue] at h
  | some v =>
    simp only [hvalue, Option.bind_eq_bind, Option.bind_some] at h
    split at h
    · exact ⟨isDigit_of_value? hvalue, congrArg Prod.snd (Option.some.inj h)⟩
    · cases h

/-- **No mark** stands behind some of the digits at the end of a line. -/
theorem after_fixedDigits (mark : Char) {count least greatest n : Nat} {cs rest left : List Char}
    (hcs : ∀ c ∈ cs.tail, isDigit c = true) (hcount : 0 < count)
    (h : fixedDigits count least greatest (cs ++ '\n' :: rest) = some (n, left))
    (hmark : isDigit mark = false) (hbreak : mark ≠ '\n') : after mark left = none := by
  obtain ⟨hdigits, rfl⟩ := fixedDigits_eq_some h
  -- the digits end before the line does
  have hwithin : count ≤ cs.length := by
    apply Nat.le_of_not_lt
    intro hlt
    have hend := hdigits '\n' (by
      rw [List.take_append, List.take_of_length_le (Nat.le_of_lt hlt)]
      obtain ⟨more, hmore⟩ := Nat.exists_eq_add_of_lt hlt
      simp [hmore, Nat.add_assoc])
    cases hend
  rw [List.drop_append_of_le_length hwithin]
  cases hdrop : cs.drop count with
  | nil => exact if_neg fun he => hbreak he.symm
  | cons d ds =>
    -- behind at least one digit there are digits only
    have hd : d ∈ cs.tail := by
      obtain ⟨k, rfl⟩ := Nat.exists_eq_succ_of_ne_zero (Nat.ne_of_gt hcount)
      refine List.mem_of_mem_drop (i := k) ?_
      rw [List.drop_tail, hdrop]
      exact List.mem_cons_self
    exact if_neg (ne_of_test (hcs d hd) hmark)

theorem readTime_eq_none {cs : List Char} (hcs : ∀ c ∈ cs.tail, isDigit c = true)
    (rest : List Char) : readTime (cs ++ '\n' :: rest) = none := by
  have hdate : date (cs ++ '\n' :: rest) = none := by
    unfold date
    cases h : fixedDigits 4 0 9999 (cs ++ '\n' :: rest) with
    | none => rfl
    | some r =>
      have hafter := after_fixedDigits '-' hcs (by omega) h rfl (by decide)
      simp [hafter]
  have htime : timeOfDay (cs ++ '\n' :: rest) = none := by
    unfold timeOfDay
    cases h : fixedDigits 2 0 23 (cs ++ '\n' :: rest) with
    | none => rfl
    | some r =>
      have hafter := after_fixedDigits ':' hcs (by omega) h rfl (by decide)
      simp [hafter]
  simp [readTime, hdate, htime]

/-! ### Whole numbers -/

/-- A whole number is written as its digits, with a minus before them if it is less than zero. -/
theorem toList_toString (n : Int) :
    (toString n).toList = (if n < 0 then ['-'] else []) ++ Nat.toDigits 10 n.natAbs := by
  rcases Int.lt_or_le n 0 with hneg | hpos
  · have hn : n = -(n.natAbs : Int) := by omega
    rw [if_pos hneg]
    conv_lhs => rw [hn]
    exact Json.toList_toString_neg (by omega)
  · have hn : n = (n.natAbs : Int) := by omega
    rw [if_neg (by omega)]
    conv_lhs => rw [hn]
    exact Json.toList_toString_natCast _

theorem exists_digit_cons (n : Nat) :
    ∃ c cs, Nat.toDigits 10 n = c :: cs ∧ isDigit c = true ∧ ∀ d ∈ cs, isDigit d = true := by
  obtain ⟨c, cs, hcs⟩ := List.exists_cons_of_ne_nil (Nat.toDigits_ne_nil (n := n) (b := 10))
  exact ⟨c, cs, hcs, List.forall_mem_cons.1 (hcs ▸ isDigit_of_mem_toDigits (n := n))⟩

theorem isDigit_of_mem_tail {n : Int} : ∀ c ∈ (toString n).toList.tail, isDigit c = true := by
  obtain ⟨c, cs, hcs, hc, hrest⟩ := exists_digit_cons n.natAbs
  rw [toList_toString, hcs]
  split
  · exact List.forall_mem_cons.2 ⟨hc, hrest⟩
  · exact hrest

theorem sign_toString (n : Int) (rest : List Char) :
    sign ((toString n).toList ++ rest) = (decide (n < 0), Nat.toDigits 10 n.natAbs ++ rest) := by
  rw [toList_toString]
  by_cases hneg : n < 0
  · simp [hneg, sign]
  · obtain ⟨c, cs, hcs, hc, -⟩ := exists_digit_cons n.natAbs
    have hminus := ne_of_test hc (d := '-') rfl
    have hplus := ne_of_test hc (d := '+') rfl
    simp [hneg, hcs, sign, hminus, hplus]

/-- A number at the end of a line has neither point nor exponent. -/
theorem readFloat_eq_none (n : Int) (rest : List Char) :
    readFloat ((toString n).toList ++ '\n' :: rest) = none := by
  have hsign := sign_toString n ('\n' :: rest)
  generalize (toString n).toList ++ '\n' :: rest = s at hsign ⊢
  have hdecimal : decimalFloat s = none := by
    simp [decimalFloat, hsign, decimalDigits_toDigits, exponentPart, fractionPart]
  have hspecial : specialFloat s = none := by
    obtain ⟨c, cs, hcs, hc, -⟩ := exists_digit_cons n.natAbs
    have hi := ne_of_test hc (d := 'i') rfl
    have hn := ne_of_test hc (d := 'n') rfl
    simp [specialFloat, hsign, hcs, hi, hn]
  simp [readFloat, hdecimal, hspecial]

/-- No other base is meant. -/
theorem readInteger_toString {n : Int} (hleast : leastInteger ≤ n) (hgreatest : n ≤ greatestInteger)
    (rest : List Char) :
    readInteger ((toString n).toList ++ '\n' :: rest) = some (.integer n, '\n' :: rest) := by
  have hsign := sign_toString n ('\n' :: rest)
  -- a zero before a letter would announce a base, but behind a zero the line ends
  have hbase : ∀ c s, (toString n).toList ++ '\n' :: rest = '0' :: c :: s → c = '\n' := by
    intro c s hs
    rw [toList_toString] at hs
    rcases Int.lt_trichotomy n 0 with hneg | rfl | hpos
    · simp [hneg] at hs
    · exact (List.cons.inj (List.cons.inj hs).2).1.symm
    · obtain ⟨d, ds, hds, hzero⟩ := Json.toDigits_eq_cons (n := n.natAbs) (by omega)
      rw [if_neg (by omega), hds] at hs
      exact absurd (List.cons.inj hs).1 hzero
  have hvalue : (if decide (n < 0) = true then -(n.natAbs : Int) else n.natAbs) = n := by
    simp only [decide_eq_true_eq]
    split <;> omega
  generalize (toString n).toList ++ '\n' :: rest = s at hsign hbase ⊢
  rw [readInteger]
  · simp only [hsign, decimalDigits_toDigits, valueIn_toDigits, hvalue, Option.bind_eq_bind,
      Option.bind_some, ofInt?, and_self, hleast, hgreatest, if_true]
  all_goals
    intro s hs
    cases hbase _ _ hs

/-- **A whole number** at the end of a line is read back. -/
theorem readNumber_toString {n : Int} (hleast : leastInteger ≤ n) (hgreatest : n ≤ greatestInteger)
    (rest : List Char) :
    readNumber ((toString n).toList ++ '\n' :: rest) = some (.integer n, '\n' :: rest) := by
  rw [readNumber, readTime_eq_none isDigit_of_mem_tail, readFloat_eq_none,
    readInteger_toString hleast hgreatest]
  rfl

end Toml

end AlertRelay
