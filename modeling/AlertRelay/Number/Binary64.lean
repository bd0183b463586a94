/-
AlertRelay/Number/Binary64.lean

Sixty-four bit binary fractions, held exactly.

A number with a fraction or an exponent never takes part in the relay's work: it is only named in
the complaint about a field that should have been a text or a whole number.  What is needed is
therefore the number that a spelling denotes and its shortest spelling, not arithmetic on a
machine type, so a fraction is held as `significand * 2 ^ exponent` and all steps are exact steps
on natural numbers followed by one rounding.

`roundQuotient` is that rounding: to the nearest representable value, a half going to the even
significand.  `ofScientific?` reads `n * 10 ^ e` the way the reader of bodies does: the
significand is rounded first, then multiplied or divided by the rounded power of ten, so a long
spelling may end one step away from the nearest value.
-/

namespace AlertRelay

/-- The value `(-1) ^ negative * significand * 2 ^ exponent`.  In a value made here the
significand is below `2 ^ 53`, the exponent at least `-1074`, and the significand is at least
`2 ^ 52` unless the exponent is `-1074`. -/
structure Binary64 where
  negative : Bool
  significand : Nat
  exponent : Int
deriving DecidableEq, Repr, Inhabited

namespace Binary64

/-- The bits a significand holds. -/
def precision : Nat := 53

/-- The exponent of the smallest values. -/
def leastExponent : Int := -1074

/-- The exponent of the largest values. -/
def greatestExponent : Int := 971

/-- `a / b` to the nearest whole number, a half to the even one. -/
def divideToEven (a b : Nat) : Nat :=
  let q := a / b
  let r := a % b
  if 2 * r < b then q
  else if b < 2 * r then q + 1
  else if q % 2 = 0 then q
  else q + 1

/-- `num / den` scaled by `2 ^ (-e)`, rounded to a whole number. -/
def scaled (num den : Nat) (e : Int) : Nat :=
  if 0 ≤ e then divideToEven num (den * Nat.pow 2 e.toNat)
  else divideToEven (num * Nat.pow 2 (-e).toNat) den

/-- The exponent at which the significand of `num / den` has all its bits. -/
def exponentOf (num den : Nat) : Int :=
  let e : Int := (Nat.log2 num : Int) - (Nat.log2 den : Int) - precision
  let e :=
    if 0 ≤ e + precision then
      if den * Nat.pow 2 (e + precision).toNat ≤ num then e + 1 else e
    else
      if den ≤ num * Nat.pow 2 (-(e + precision)).toNat then e + 1 else e
  max e leastExponent

/-- The magnitude nearest to `num / den`; `none` when it is beyond the largest. -/
def roundQuotient (num den : Nat) : Option (Nat × Int) :=
  if num = 0 then some (0, leastExponent)
  else
    let e := exponentOf num den
    let m := scaled num den e
    let (m, e) := if m = Nat.pow 2 precision then (Nat.pow 2 (precision - 1), e + 1) else (m, e)
    if greatestExponent < e then none else some (m, e)

/-- `x * y` rounded. -/
def times (x y : Nat × Int) : Option (Nat × Int) :=
  let e := x.2 + y.2
  if 0 ≤ e then roundQuotient (x.1 * y.1 * Nat.pow 2 e.toNat) 1
  else roundQuotient (x.1 * y.1) (Nat.pow 2 (-e).toNat)

/-- `x / y` rounded. -/
def quotient (x y : Nat × Int) : Option (Nat × Int) :=
  let e := x.2 - y.2
  if 0 ≤ e then roundQuotient (x.1 * Nat.pow 2 e.toNat) y.1
  else roundQuotient x.1 (y.1 * Nat.pow 2 (-e).toNat)

/-- The greatest power of ten that is representable. -/
def greatestPower : Nat := 308

/-- `10 ^ k` rounded, for `k` up to `greatestPower`. -/
def powerOfTen (k : Nat) : Nat × Int :=
  (roundQuotient (Nat.pow 10 k) 1).getD (0, leastExponent)

/-- Divides by `10 ^ k`, by the greatest power as long as `k` is beyond it. -/
def divideByPower (x : Nat × Int) (k : Nat) : Option (Nat × Int) :=
  if k ≤ greatestPower then quotient x (powerOfTen k)
  else if x.1 = 0 then some x
  else
    match quotient x (powerOfTen greatestPower) with
    | none => none
    | some y => divideByPower y (k - greatestPower)
termination_by k
decreasing_by
  simp only [greatestPower] at *
  omega

/-- The magnitude of `n * 10 ^ e`; `none` when it is beyond the largest. -/
def magnitude? (n : Nat) (e : Int) : Option (Nat × Int) :=
  match roundQuotient n 1 with
  | none => none
  | some x =>
    if 0 ≤ e then
      if e ≤ greatestPower then times x (powerOfTen e.toNat)
      else if x.1 = 0 then some x
      else none
    else divideByPower x (-e).toNat

/-- The value spelled `n * 10 ^ e` with a sign. -/
def ofScientific? (negative : Bool) (n : Nat) (e : Int) : Option Binary64 :=
  (magnitude? n e).map fun x => ⟨negative, x.1, x.2⟩

/-- The value nearest to a whole number below `2 ^ 64`. -/
def ofNat (negative : Bool) (n : Nat) : Binary64 :=
  match roundQuotient n 1 with
  | none => ⟨negative, 0, leastExponent⟩
  | some x => ⟨negative, x.1, x.2⟩

/-- Zero, with a sign. -/
def zero (negative : Bool) : Binary64 :=
  ⟨negative, 0, leastExponent⟩

end Binary64

end AlertRelay
