/-
AlertRelay/Proofs/Number/Decimal.lean

Whole numbers in decimal: what is read is what the digits say.

A reader of digits takes one or more of them and nothing else, however many zeros stand in front
(`value?_eq_some_iff`).  Readers with a bound, and with a sign, add what they look at besides.
-/
import AlertRelay.Number.Decimal
import AlertRelay.Proofs.Json.Token

namespace AlertRelay

namespace Decimal

theorem digit?_of_isDigit {c : Char} (h : c.isDigit = true) :
    digit? c = some (c.toNat - '0'.toNat) := by
  have hrange : '0' ≤ c ∧ c ≤ '9' := by simpa [Char.isDigit, Char.le_def] using h
  rw [digit?, if_pos hrange]

theorem isSome_digit? (c : Char) : (digit? c).isSome = c.isDigit := by
  simp only [digit?, Char.isDigit, Char.le_def]
  split <;> simp_all

theorem mem_of_isDigit {c : Char} (h : c.isDigit = true) : c ∈ "0123456789".toList := by
  have hall : ∀ n < 58, 48 ≤ n → Char.ofNat n ∈ "0123456789".toList := by decide
  obtain ⟨hleast, hgreatest⟩ := Char.isDigit_iff_toNat.1 h
  simp only [Char.reduceToNat] at hleast hgreatest
  rw [← Char.ofNat_toNat c]
  exact hall c.toNat (by omega) hleast

theorem valueFrom_eq_some_iff {cs : List Char} {start n : Nat} :
    valueFrom start cs = some n ↔
      (∀ c ∈ cs, c.isDigit = true) ∧ Nat.ofDigitChars 10 cs start = n := by
  induction cs generalizing start with
  | nil => simp [valueFrom]
  | cons c cs ih =>
    rw [valueFrom, List.forall_mem_cons, Nat.ofDigitChars_cons]
    by_cases hc : c.isDigit = true
    · rw [digit?_of_isDigit hc]
      simp [hc, ih]
    · have hnone : digit? c = none := by
        rw [← Option.not_isSome_iff_eq_none, isSome_digit?]
        exact hc
      simp [hnone, hc]

/-- **Digits** spell the number that they say, and nothing else spells one. -/
theorem value?_eq_some_iff {cs : List Char} {n : Nat} :
    value? cs = some n ↔
      cs ≠ [] ∧ (∀ c ∈ cs, c.isDigit = true) ∧ Nat.ofDigitChars 10 cs 0 = n := by
  cases cs with
  | nil => simp [value?]
  | cons c cs =>
    rw [value?, valueFrom_eq_some_iff]
    · simp
    · nofun

/-- The digits of a number are one or more. -/
theorem value?_toDigits (n : Nat) : value? (Nat.toDigits 10 n) = some n :=
  value?_eq_some_iff.2 ⟨Nat.toDigits_ne_nil,
    fun _ hc => Nat.isDigit_of_mem_toDigits (by omega) (Nat.le_refl 10) hc,
    Nat.ofDigitChars_ten_toDigits⟩

/-- Digits begin with no sign. -/
theorem ne_cons_of_value? {cs rest : List Char} {n : Nat} {mark : Char} (h : value? cs = some n)
    (hmark : mark.isDigit = false) : cs ≠ mark :: rest := by
  rintro rfl
  have hdigit := (value?_eq_some_iff.1 h).2.1 mark List.mem_cons_self
  rw [hmark] at hdigit
  cases hdigit

theorem unsigned?_of_value? {greatest n : Nat} {cs : List Char} (h : value? cs = some n)
    (hgreatest : n ≤ greatest) : unsigned? greatest cs = some n := by
  unfold unsigned?
  split
  · exact absurd rfl (ne_cons_of_value? h rfl)
  · simp only [h, if_pos hgreatest]

/-- A plus may stand in front of digits. -/
theorem unsigned?_eq_some_iff {greatest n : Nat} {cs : List Char} :
    unsigned? greatest cs = some n ↔
      n ≤ greatest ∧ (value? cs = some n ∨ ∃ rest, cs = '+' :: rest ∧ value? rest = some n) := by
  constructor
  · intro h
    unfold unsigned? at h
    dsimp only at h
    split at h
    · cases h
    · rename_i m hm
      split at h
      · rename_i hle
        cases h
        refine ⟨hle, ?_⟩
        split at hm
        · exact .inr ⟨_, rfl, hm⟩
        · exact .inl hm
      · cases h
  · rintro ⟨hle, h | ⟨rest, rfl, h⟩⟩
    · exact unsigned?_of_value? h hle
    · simp only [unsigned?, h, if_pos hle]

/-- **A number** is read back from its text, if it lies within the bounds. -/
theorem signed?_toString {least greatest n : Int} (hleast : least ≤ n) (hgreatest : n ≤ greatest) :
    signed? least greatest (toString n).toList = some n := by
  rcases Int.lt_or_le n 0 with hneg | hpos
  · obtain ⟨m, rfl⟩ : ∃ m : Nat, n = -m := ⟨(-n).toNat, by omega⟩
    rw [Json.toList_toString_neg (by omega)]
    simp [signed?, value?_toDigits, hleast, hgreatest]
  · obtain ⟨m, rfl⟩ := Int.eq_ofNat_of_zero_le hpos
    have hvalue := value?_toDigits m
    rw [Json.toList_toString_natCast]
    unfold signed?
    split
    · exact absurd ‹_› (ne_cons_of_value? hvalue rfl)
    · exact absurd ‹_› (ne_cons_of_value? hvalue rfl)
    · simp [hvalue, hleast, hgreatest]

/-- A number is spelled with digits, and perhaps a minus. -/
theorem mem_of_mem_toString {n : Int} {c : Char} (h : c ∈ (toString n).toList) :
    c ∈ "-0123456789".toList := by
  have hdigits : ∀ m, c ∈ Nat.toDigits 10 m → c ∈ "-0123456789".toList := by
    intro m hm
    have hc := mem_of_isDigit (Nat.isDigit_of_mem_toDigits (by omega) (Nat.le_refl 10) hm)
    exact List.mem_cons_of_mem '-' hc
  obtain ⟨m, rfl | rfl⟩ := Int.eq_nat_or_neg n
  · rw [Json.toList_toString_natCast] at h
    exact hdigits m h
  · rcases Nat.eq_zero_or_pos m with rfl | hm
    · exact hdigits 0 h
    · rw [Json.toList_toString_neg hm, List.mem_cons] at h
      rcases h with rfl | h
      · decide
      · exact hdigits m h

end Decimal

end AlertRelay
