/-
AlertRelay/Url/Punycode.lean

Names with foreign letters, spelled in ASCII.

The characters of ASCII come first and stand for themselves.  Then, behind a dash, every other
character is inserted, in the order of their code points.  What is written is the distance from one
insertion to the next, as a number whose digits weigh less where numbers have been small so far.
-/

namespace AlertRelay

namespace Punycode

/-- A digit: a letter, or from 26 on a figure. -/
def digit (n : Nat) : Char :=
  if n < 26 then Char.ofNat (97 + n) else Char.ofNat (22 + n)

/-- The value of a digit. -/
def digit? (c : Char) : Option Nat :=
  if 'a' ≤ c ∧ c ≤ 'z' then some (c.toNat - 97)
  else if '0' ≤ c ∧ c ≤ '9' then some (c.toNat - 22)
  else none

/-- The least value with which the digit at a place does not end its number. -/
def threshold (place bias : Nat) : Nat :=
  max 1 (min 26 (36 * place - bias))

theorem threshold_pos (place bias : Nat) : 0 < threshold place bias := by
  unfold threshold; omega

/-- How often a number is divided by 35 until it is small, and what is left of it. -/
def shrink (n : Nat) : Nat × Nat :=
  if 455 < n then ((shrink (n / 35)).1 + 1, (shrink (n / 35)).2) else (0, n)
termination_by n
decreasing_by all_goals omega

/-- The bias after a distance has been written. -/
def adapt (distance count : Nat) (isFirst : Bool) : Nat :=
  let d := if isFirst then distance / 700 else distance / 2
  let (times, left) := shrink (d + d / count)
  36 * times + 36 * left / (left + 38)

/-! ### Spelling -/

/-- The digits of a distance from a place on. -/
def digitsFrom (bias place n : Nat) : List Char :=
  let t := threshold place bias
  if n < t then [digit n]
  else digit (t + (n - t) % (36 - t)) :: digitsFrom bias (place + 1) ((n - t) / (36 - t))
termination_by n
decreasing_by
  have := threshold_pos place bias
  exact Nat.lt_of_le_of_lt (Nat.div_le_self _ _) (by omega)

/-- What has been spelled so far. -/
structure Spelling where
  /-- The digits. -/
  out : List Char := []
  distance : Nat := 0
  bias : Nat := 72
  /-- How many characters stand in the name. -/
  handled : Nat
  /-- The code point from which on characters are missing. -/
  start : Nat := 128

/-- Passes one character of the name, while those with a given code point are inserted. -/
def Spelling.pass (basic point : Nat) (s : Spelling) (c : Char) : Spelling :=
  if c.toNat < point then { s with distance := s.distance + 1 }
  else if c.toNat = point then
    { s with
      out := s.out ++ digitsFrom s.bias 1 s.distance
      distance := 0
      bias := adapt s.distance (s.handled + 1) (s.handled = basic)
      handled := s.handled + 1 }
  else s

/-- Inserts all characters with a given code point. -/
def Spelling.insertAll (name : List Char) (basic : Nat) (s : Spelling) (point : Nat) : Spelling :=
  let s := { s with distance := s.distance + (point - s.start) * (s.handled + 1) }
  let s := name.foldl (Spelling.pass basic point) s
  { s with distance := s.distance + 1, start := point + 1 }

/-- The spelling of a name. -/
def encode (name : List Char) : List Char :=
  let basic := name.filter fun c => c.toNat < 128
  let points := ((name.map Char.toNat).filter (128 ≤ ·)).eraseDups.mergeSort
  let s := points.foldl (Spelling.insertAll name basic.length) { handled := basic.length }
  basic ++ (if basic = [] then [] else ['-']) ++ s.out

/-! ### Reading -/

/-- What has been read so far. -/
structure Reading where
  name : List Char
  point : Nat := 128
  /-- Where the next character goes. -/
  index : Nat := 0
  bias : Nat := 72
  /-- The distance read so far, and the place and weight of its next digit. -/
  distance : Nat := 0
  place : Nat := 1
  weight : Nat := 1

/-- Inserts the character that a whole distance leads to. -/
def Reading.insert? (r : Reading) (distance : Nat) : Option Reading :=
  let count := r.name.length + 1
  let index := r.index + distance
  let point := r.point + index / count
  if point.isValidChar then
    some {
      name := r.name.insertIdx (index % count) (Char.ofNat point)
      point := point
      index := index % count + 1
      bias := adapt distance count (r.index = 0) }
  else none

/-- Reads the digits behind the dash. -/
def readDigits : Reading → List Char → Option (List Char)
  | r, [] => if r.place = 1 then some r.name else none
  | r, c :: rest =>
    match digit? c with
    | none => none
    | some d =>
      let distance := r.distance + d * r.weight
      let t := threshold r.place r.bias
      if d < t then
        match r.insert? distance with
        | none => none
        | some r => readDigits r rest
      else
        readDigits { r with
          distance := distance
          place := r.place + 1
          weight := r.weight * (36 - t) } rest

/-- The name that some characters spell. -/
def decode? (spelled : List Char) : Option (List Char) :=
  let back := spelled.reverse
  let digits := (back.takeWhile (· ≠ '-')).reverse
  let basic := ((back.dropWhile (· ≠ '-')).drop 1).reverse
  readDigits { name := basic } digits

end Punycode

end AlertRelay
