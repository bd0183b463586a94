/-
AlertRelay/Number/Shortest.lean

The shortest decimal spelling of a binary fraction.

Among the decimals that round to a value, the one with the fewest digits is written, and of
several with as few digits the nearest.  The search is exact and has no tables: the decimals that
round to `m * 2 ^ e` are those between the two midpoints to its neighbours (ends included when `m`
is even), and if a grid of `k` digits has a point in there, then one of the two grid points beside
the value is such a point.  So seventeen grids and two candidates on each are enough.

`Layout` holds what is a matter of taste: where positional notation ends and how an exponent is
written.
-/
import AlertRelay.Number.Binary64

namespace AlertRelay

namespace Binary64

/-! ### The interval of decimals that round to a value -/

/-- A quotient of natural numbers. -/
structure Ratio where
  num : Nat
  den : Nat

/-- `a ≤ b`, or `a < b` when the end does not count. -/
def Ratio.within (a b : Ratio) (closed : Bool) : Bool :=
  if closed then a.num * b.den ≤ b.num * a.den else a.num * b.den < b.num * a.den

/-- `m * 2 ^ e`. -/
def Ratio.ofBinary (m : Nat) (e : Int) : Ratio :=
  if 0 ≤ e then ⟨m * Nat.pow 2 e.toNat, 1⟩ else ⟨m, Nat.pow 2 (-e).toNat⟩

/-- `n * 10 ^ p`. -/
def Ratio.ofDecimal (n : Nat) (p : Int) : Ratio :=
  if 0 ≤ p then ⟨n * Nat.pow 10 p.toNat, 1⟩ else ⟨n, Nat.pow 10 (-p).toNat⟩

/-- The midpoint to the next smaller value; nearer when the value is the least of its exponent. -/
def lowerEnd (x : Binary64) : Ratio :=
  if x.significand = Nat.pow 2 (precision - 1) && x.exponent != leastExponent then
    .ofBinary (4 * x.significand - 1) (x.exponent - 2)
  else .ofBinary (2 * x.significand - 1) (x.exponent - 1)

/-- The midpoint to the next greater value. -/
def upperEnd (x : Binary64) : Ratio :=
  .ofBinary (2 * x.significand + 1) (x.exponent - 1)

/-- Whether `n * 10 ^ p` rounds to `x`. -/
def roundsTo (x : Binary64) (n : Nat) (p : Int) : Bool :=
  let d := Ratio.ofDecimal n p
  let closed := x.significand % 2 = 0
  (lowerEnd x).within d closed && d.within (upperEnd x) closed

/-! ### The grids -/

/-- `v / 10 ^ p`, rounded down, with the remainder's share of a step. -/
def gridBelow (v : Ratio) (p : Int) : Nat × Nat × Nat :=
  let (num, den) :=
    if 0 ≤ p then (v.num, v.den * Nat.pow 10 p.toNat) else (v.num * Nat.pow 10 (-p).toNat, v.den)
  (num / den, num % den, den)

/-- A scale beyond every exponent, so that a scaled value has digits before the point. -/
def scaleDigits : Nat := 400

/-- The exponent of the first digit of a positive ratio. -/
def leadingExponent (v : Ratio) : Int :=
  let q := v.num * Nat.pow 10 scaleDigits / v.den
  ((Nat.toDigits 10 q).length : Int) - 1 - scaleDigits

/-- The best point of the grid with step `10 ^ p`, if one rounds to `x`. -/
def gridPoint? (x : Binary64) (v : Ratio) (p : Int) : Option Nat :=
  let (below, rest, step) := gridBelow v p
  match x.roundsTo below p, x.roundsTo (below + 1) p with
  | true, true =>
    if 2 * rest < step || (2 * rest = step && below % 2 = 0) then some below
    else some (below + 1)
  | true, false => some below
  | false, true => some (below + 1)
  | false, false => none

/-- Tries grids of more and more digits. -/
def searchGrids (x : Binary64) (v : Ratio) (lead : Int) : Nat → Nat → Nat × Int
  | 0, _ => (0, 0)
  | tries + 1, digits =>
    let p := lead - digits + 1
    match gridPoint? x v p with
    | some n => (n, p)
    | none => searchGrids x v lead tries (digits + 1)

/-- Drops zeros at the end of `n * 10 ^ p`. -/
def dropZeros : Nat → Nat → Int → Nat × Int
  | 0, n, p => (n, p)
  | fuel + 1, n, p => if n ≠ 0 && n % 10 = 0 then dropZeros fuel (n / 10) (p + 1) else (n, p)

/-- The shortest decimal `n * 10 ^ p` that rounds to the magnitude of a value. -/
def shortest (x : Binary64) : Nat × Int :=
  if x.significand = 0 then (0, 0)
  else
    let v := Ratio.ofBinary x.significand x.exponent
    let (n, p) := searchGrids x v (leadingExponent v) 17 1
    dropZeros 20 n p

/-! ### Writing it down -/

/-- How a decimal is laid out. -/
structure Layout where
  /-- Positional from this exponent of the first digit. -/
  leastPositional : Int
  /-- Positional up to this exponent of the first digit. -/
  greatestPositional : Int
  /-- The least number of digits of an exponent. -/
  exponentDigits : Nat
deriving DecidableEq, Repr

/-- Digits of `n`, at least `width` of them. -/
def padded (width n : Nat) : List Char :=
  let digits := Nat.toDigits 10 n
  List.replicate (width - digits.length) '0' ++ digits

/-- The text of a value: positional with at least one digit after the point, or one digit before
the point and a signed exponent. -/
def text (layout : Layout) (x : Binary64) : String :=
  let (n, p) := x.shortest
  let digits := Nat.toDigits 10 n
  let lead : Int := p + digits.length - 1
  let body :=
    if n = 0 then ['0', '.', '0']
    else if 0 ≤ p && lead ≤ layout.greatestPositional then
      digits ++ List.replicate p.toNat '0' ++ ['.', '0']
    else if 0 ≤ lead && lead ≤ layout.greatestPositional then
      digits.take (lead.toNat + 1) ++ '.' :: digits.drop (lead.toNat + 1)
    else if lead < 0 && layout.leastPositional ≤ lead then
      '0' :: '.' :: List.replicate (-lead - 1).toNat '0' ++ digits
    else
      let fraction := match digits with
        | [d] => [d]
        | d :: more => d :: '.' :: more
        | [] => []
      let sign := if lead < 0 then '-' else '+'
      fraction ++ 'e' :: sign :: padded layout.exponentDigits lead.natAbs
  String.ofList (if x.negative then '-' :: body else body)

end Binary64

end AlertRelay
