/-
AlertRelay/Number/Decimal.lean

Whole numbers in decimal.

A reader gets its characters as a list, so that what was split off before it can be handed on.
Only the ten ASCII digits count as digits.  Every number that is read has a bound: one beyond it
is no number at all, and never one that wraps around.
-/

namespace AlertRelay

namespace Decimal

/-- The value of a digit. -/
def digit? (c : Char) : Option Nat :=
  if '0' ≤ c ∧ c ≤ '9' then some (c.toNat - '0'.toNat) else none

/-- The number that some digits continue. -/
def valueFrom (n : Nat) : List Char → Option Nat
  | [] => some n
  | c :: rest =>
    match digit? c with
    | none => none
    | some d => valueFrom (10 * n + d) rest

/-- The number that one or more digits spell. -/
def value? : List Char → Option Nat
  | [] => none
  | cs => valueFrom 0 cs

/-- A number up to a bound; a plus may stand before it. -/
def unsigned? (greatest : Nat) (cs : List Char) : Option Nat :=
  let digits := match cs with
    | '+' :: rest => rest
    | cs => cs
  match value? digits with
  | none => none
  | some n => if n ≤ greatest then some n else none

/-- A number between two bounds; a sign may stand before it. -/
def signed? (least greatest : Int) (cs : List Char) : Option Int :=
  let n := match cs with
    | '-' :: rest => (value? rest).map fun n => -(n : Int)
    | '+' :: rest => (value? rest).map fun n => (n : Int)
    | cs => (value? cs).map fun n => (n : Int)
  match n with
  | none => none
  | some n => if least ≤ n ∧ n ≤ greatest then some n else none

end Decimal

end AlertRelay
