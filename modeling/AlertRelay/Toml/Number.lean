/-
AlertRelay/Toml/Number.lean

Numbers, dates and times in a TOML document.

All of them begin with a digit, a sign or a letter of `inf` and `nan`, and what one of them is
shows only further on, so they are tried in turn: a date or time, a number with point or exponent,
a whole number.  Single underscores may stand between digits.  A whole number in decimal has no
zeros at its front; one in another base has no sign.
-/
import AlertRelay.Toml.Text
import AlertRelay.Toml.Value

namespace AlertRelay

namespace Toml

/-- The characters of a text up to what is left of it. -/
def consumed (s rest : List Char) : List Char :=
  s.take (s.length - rest.length)

/-! ### Digits -/

/-- Whether a character is a decimal digit. -/
def isDigit (c : Char) : Bool :=
  (Decimal.digit? c).isSome

/-- More digits, each after an underscore or not; those digits and what is left. -/
def moreDigits (p : Char → Bool) : List Char → Option (List Char × List Char)
  | [] => some ([], [])
  | ['_'] => none
  | '_' :: c :: rest =>
    if p c then (moreDigits p rest).map fun r => (c :: r.1, r.2) else none
  | c :: rest =>
    if p c then (moreDigits p rest).map fun r => (c :: r.1, r.2) else some ([], c :: rest)

/-- One or more digits. -/
def digits (p : Char → Bool) : List Char → Option (List Char × List Char)
  | [] => none
  | c :: rest => if p c then (moreDigits p rest).map fun r => (c :: r.1, r.2) else none

/-- A sign, if there is one: whether it is a minus. -/
def sign : List Char → Bool × List Char
  | '-' :: rest => (true, rest)
  | '+' :: rest => (false, rest)
  | s => (false, s)

/-- Digits without a zero at their front, or a single zero. -/
def decimalDigits : List Char → Option (List Char × List Char)
  | '0' :: rest => some (['0'], rest)
  | s => digits isDigit s

/-! ### Whole numbers -/

/-- The least whole number. -/
def leastInteger : Int := -(Nat.pow 2 63 : Nat)

/-- The greatest whole number. -/
def greatestInteger : Int := (Nat.pow 2 63 : Nat) - 1

/-- A whole number, if it is in range. -/
def ofInt? (n : Int) : Option Toml :=
  if leastInteger ≤ n ∧ n ≤ greatestInteger then some (.integer n) else none

/-- The number that digits of some base spell. -/
def valueIn (base : Nat) (ds : List Char) : Nat :=
  ds.foldl (fun n c => n * base + (Hexadecimal.digit? c).getD 0) 0

/-- Whether a character is a digit of some base. -/
def isDigitIn (base : Nat) (c : Char) : Bool :=
  (Hexadecimal.digit? c).any (· < base)

/-- A whole number in a base other than ten, from its first digit. -/
def based (base : Nat) (s : List Char) : Option (Toml × List Char) := do
  let (ds, rest) ← digits (isDigitIn base) s
  let v ← ofInt? (valueIn base ds)
  some (v, rest)

/-- A whole number. -/
def readInteger : List Char → Option (Toml × List Char)
  | '0' :: 'x' :: rest => based 16 rest
  | '0' :: 'o' :: rest => based 8 rest
  | '0' :: 'b' :: rest => based 2 rest
  | s => do
    let (negative, s) := sign s
    let (ds, rest) ← decimalDigits s
    let n : Int := valueIn 10 ds
    let v ← ofInt? (if negative then -n else n)
    some (v, rest)

/-! ### Numbers with point or exponent -/

/-- The part after the point. -/
def fractionPart : List Char → Option (List Char × List Char)
  | '.' :: rest => digits isDigit rest
  | _ => none

/-- The exponent after its letter. -/
def exponentPart : List Char → Option (Int × List Char)
  | c :: rest =>
    if c = 'e' || c = 'E' then do
      let (negative, rest) := sign rest
      let (ds, rest) ← digits isDigit rest
      let n : Int := valueIn 10 ds
      some (if negative then -n else n, rest)
    else none
  | [] => none

/-- Whether `n * 10 ^ scale` lies beyond the greatest binary fraction of 64 bits. -/
def overflows (n : Nat) (scale : Int) : Bool :=
  let lead : Int := (Nat.toDigits 10 n).length + scale
  if n = 0 || lead < 300 then false
  else if 320 < lead then true
  else
    let limit := Nat.pow 2 1024 - Nat.pow 2 970
    if 0 ≤ scale then limit ≤ n * Nat.pow 10 scale.toNat
    else limit * Nat.pow 10 (-scale).toNat ≤ n

/-- A number with point or exponent that does not grow beyond all bounds. -/
def decimalFloat (s : List Char) : Option (List Char) := do
  let (negative, s) := sign s
  let (whole, s) ← decimalDigits s
  let (places, scale, rest) ←
    match exponentPart s with
    | some (e, rest) => some ([], e, rest)
    | none => do
      let (places, s) ← fractionPart s
      match exponentPart s with
      | some (e, rest) => some (places, e, rest)
      | none => some (places, 0, s)
  if !negative && overflows (valueIn 10 (whole ++ places)) (scale - places.length) then none
  else some rest

/-- A number that is none. -/
def specialFloat (s : List Char) : Option (List Char) :=
  match (sign s).2 with
  | 'i' :: 'n' :: 'f' :: rest => some rest
  | 'n' :: 'a' :: 'n' :: rest => some rest
  | _ => none

/-- A number with point or exponent. -/
def readFloat (s : List Char) : Option (Toml × List Char) := do
  let rest ← decimalFloat s <|> specialFloat s
  some (.float (String.ofList (consumed s rest)), rest)

/-! ### Dates and times -/

/-- So many digits as a number between two bounds. -/
def fixedDigits (count least greatest : Nat) (s : List Char) : Option (Nat × List Char) := do
  let ds := s.take count
  let n ← Decimal.value? ds
  if ds.length = count ∧ least ≤ n ∧ n ≤ greatest then some (n, s.drop count) else none

/-- What follows a character. -/
def after (c : Char) : List Char → Option (List Char)
  | [] => none
  | d :: rest => if d = c then some rest else none

/-- The days of a month. -/
def daysIn (year month : Nat) : Nat :=
  if month = 2 then
    if year % 4 = 0 ∧ (year % 100 ≠ 0 ∨ year % 400 = 0) then 29 else 28
  else if month = 4 ∨ month = 6 ∨ month = 9 ∨ month = 11 then 30
  else 31

/-- A date; what is left. -/
def date (s : List Char) : Option (List Char) := do
  let (year, s) ← fixedDigits 4 0 9999 s
  let s ← after '-' s
  let (month, s) ← fixedDigits 2 1 12 s
  let s ← after '-' s
  let (_, s) ← fixedDigits 2 1 (daysIn year month) s
  some s

/-- The places of a second, if there are any. -/
def secondPlaces : List Char → List Char
  | '.' :: c :: rest => if isDigit c then rest.dropWhile isDigit else '.' :: c :: rest
  | s => s

/-- A time of the day; what is left. -/
def timeOfDay (s : List Char) : Option (List Char) := do
  let (_, s) ← fixedDigits 2 0 23 s
  let s ← after ':' s
  let (_, s) ← fixedDigits 2 0 59 s
  let s ← after ':' s
  let (_, s) ← fixedDigits 2 0 60 s
  some (secondPlaces s)

/-- The distance from the zero meridian, if there is one. -/
def zone (s : List Char) : Option (List Char) :=
  match s with
  | 'Z' :: rest => some rest
  | 'z' :: rest => some rest
  | c :: rest =>
    if c = '+' || c = '-' then do
      let (_, rest) ← fixedDigits 2 0 23 rest
      let rest ← after ':' rest
      let (_, rest) ← fixedDigits 2 0 59 rest
      some rest
    else some s
  | [] => some s

/-- The time of the day that follows a date, if one does. -/
def timeAfterDate (s : List Char) : Option (List Char) :=
  match s with
  | c :: rest =>
    if c = 'T' || c = 't' || c = ' ' then
      match timeOfDay rest with
      | some rest => zone rest
      | none => some s
    else some s
  | [] => some s

/-- A date, a time, or both. -/
def readTime (s : List Char) : Option (Toml × List Char) := do
  let rest ← (date s).bind timeAfterDate <|> timeOfDay s
  some (.time (String.ofList (consumed s rest)), rest)

/-- A number, a date or a time. -/
def readNumber (s : List Char) : Option (Toml × List Char) :=
  readTime s <|> readFloat s <|> readInteger s

end Toml

end AlertRelay
