/-
AlertRelay/Toml/Value.lean

The values of a TOML document, and how a document grows.

A document is a table to which its lines add one by one.  What a line may add to depends on how a
table came to be, so every table carries its `Origin`:

* a header `[a.b]` opens `b`, once, and passes through `a`;
* a dotted key `a.b = 1` puts `b` into `a`, but only if `a` came to be by dotted keys, too;
* a header `[[a]]` adds one more table to the list `a`, and whatever comes later under `a` belongs
  to the last table of that list;
* nothing can be added to a table that was written as a value.
-/

namespace AlertRelay

/-- How a table came to be. -/
inductive Origin where
  /-- By a header of its own. -/
  | header
  /-- On the way to the table of a header. -/
  | parent
  /-- On the way of a dotted key. -/
  | dotted
  /-- As a value, between braces. -/
  | inline
deriving DecidableEq, Repr

/-- A TOML value. -/
inductive Toml where
  | string (s : String)
  | integer (n : Int)
  /-- A number with point or exponent, as it is spelled. -/
  | float (text : String)
  | bool (b : Bool)
  /-- A date or a time, as it is spelled. -/
  | time (text : String)
  | array (items : List Toml)
  | table (origin : Origin) (entries : List (String × Toml))
  /-- Tables that were added one by one. -/
  | tables (items : List (List (String × Toml)))
deriving Inhabited, Repr

namespace Toml

/-- The entries of a table, in the order in which they were written. -/
abbrev Entries := List (String × Toml)

/-! ### Adding to a table -/

/-- Entries with a value at a key, in place of the one there or at the end. -/
def setEntry (key : String) (v : Toml) : Entries → Entries
  | [] => [(key, v)]
  | (k, w) :: rest => if k = key then (k, v) :: rest else (k, w) :: setEntry key v rest

/-- Whether a path may pass through a table. -/
def canEnter (byKey : Bool) : Origin → Bool
  | .header => !byKey
  | .parent => true
  | .dotted => true
  | .inline => false

/-- The origin of the tables that a path brings about. -/
def originOf (byKey : Bool) : Origin :=
  if byKey then .dotted else .parent

/-- Changes the table at the end of a path.  The path is that of a dotted key (`byKey`) or of a
header. -/
def within (byKey : Bool) (change : Origin → Entries → Option Entries) :
    (path : List String) → Origin → Entries → Option Entries
  | [], origin, entries => change origin entries
  | key :: path, _, entries =>
    match entries.lookup key with
    | none =>
      (within byKey change path (originOf byKey) []).map fun sub =>
        setEntry key (.table (originOf byKey) sub) entries
    | some (.table o sub) =>
      if canEnter byKey o then
        (within byKey change path o sub).map fun sub => setEntry key (.table o sub) entries
      else none
    | some (.tables items) =>
      match items.reverse with
      | [] => none
      | last :: before =>
        (within byKey change path .header last).map fun sub =>
          setEntry key (.tables (before.reverse ++ [sub])) entries
    | some _ => none

/-- Adds a value that is not there yet. -/
def addValue (key : String) (v : Toml) (entries : Entries) : Option Entries :=
  if (entries.lookup key).isSome then none else some (entries ++ [(key, v)])

/-- Adds a value under a dotted key. -/
def addDotted (path : List String) (key : String) (v : Toml) (entries : Entries) :
    Option Entries :=
  match path with
  | [] => addValue key v entries
  | path =>
    within true (fun o sub => if o = .dotted then addValue key v sub else none) path .header
      entries

/-- Opens the table of a header. -/
def openTable (key : String) (entries : Entries) : Option Entries :=
  match entries.lookup key with
  | none => some (entries ++ [(key, .table .header [])])
  | some (.table .parent sub) => some (setEntry key (.table .header sub) entries)
  | some _ => none

/-- Opens one more table of a list. -/
def openItem (key : String) (entries : Entries) : Option Entries :=
  match entries.lookup key with
  | none => some (entries ++ [(key, .tables [[]])])
  | some (.tables items) => some (setEntry key (.tables (items ++ [[]])) entries)
  | some _ => none

/-! ### Records -/

/-- A value as a record with the given fields: a table with their names, or a list of their values
in order.  A date is a record without any of them. -/
def fields? (names : List String) : Toml → Option Entries
  | .table _ entries => some entries
  | .array items => some (names.zip items)
  | .tables items => some (names.zip (items.map (.table .header)))
  | .time _ => some []
  | _ => none

/-- A text. -/
def text? : Toml → Option String
  | .string s => some s
  | _ => none

/-- A whole number between two bounds. -/
def integer? (least greatest : Int) : Toml → Option Int
  | .integer n => if least ≤ n ∧ n ≤ greatest then some n else none
  | _ => none

/-- A truth value. -/
def bool? : Toml → Option Bool
  | .bool b => some b
  | _ => none

/-- A list of values. -/
def items? : Toml → Option (List Toml)
  | .array items => some items
  | .tables items => some (items.map (.table .header))
  | _ => none

/-- A field that may be left out. -/
def fieldOr {α : Type} (entries : Entries) (name : String) (read : Toml → Option α) (dflt : α) :
    Option α :=
  match entries.lookup name with
  | none => some dflt
  | some v => read v

/-- A field that has to be there. -/
def field? {α : Type} (entries : Entries) (name : String) (read : Toml → Option α) : Option α :=
  match entries.lookup name with
  | none => none
  | some v => read v

end Toml

end AlertRelay
