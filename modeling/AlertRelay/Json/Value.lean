/-
AlertRelay/Json/Value.lean

JSON values, and what is looked at in an object.

A value keeps its members in the order and number in which they were written: some readers refuse
a member that is given twice, others take the last.  `settled` is the second view: members in
ascending order of their names, of each name the last, and the same for the members of an object
among them.  Nothing the relay reads lies deeper than that.  The view is taken once, of a whole
request body, so that everything after it is a function of names and values alone.
-/
import AlertRelay.KeyedMap
import AlertRelay.Number.Binary64

namespace AlertRelay

/-- A JSON value.  Whole numbers are those from `-2 ^ 63` to `2 ^ 64 - 1` spelled without point and
exponent, negative zero excepted; every other number is a binary fraction. -/
inductive Json where
  | null
  | bool (b : Bool)
  | integer (n : Int)
  | float (x : Binary64)
  | string (s : String)
  | array (items : List Json)
  | object (members : List (String × Json))
deriving Inhabited

namespace Json

/-- The members of an object, as they were written. -/
abbrev Members := List (String × Json)

/-! ### Members in order, each name once -/

/-- An object with its members arranged; any other value as it is. -/
def arranged : Json → Json
  | .object members => .object (KeyedMap.ofList members).toList
  | v => v

/-- Members arranged, and those of each object among them. -/
def settled (members : Members) : KeyedMap Json :=
  (KeyedMap.ofList members).map arranged

end Json

end AlertRelay
