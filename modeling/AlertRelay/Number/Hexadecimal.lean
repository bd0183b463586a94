/-
AlertRelay/Number/Hexadecimal.lean

Hexadecimal digits.

Reading takes letters of both cases; writing has a function for each.
-/

namespace AlertRelay

namespace Hexadecimal

/-- The value of a digit. -/
def digit? (c : Char) : Option Nat :=
  if '0' ≤ c ∧ c ≤ '9' then some (c.toNat - '0'.toNat)
  else if 'a' ≤ c ∧ c ≤ 'f' then some (c.toNat - 'a'.toNat + 10)
  else if 'A' ≤ c ∧ c ≤ 'F' then some (c.toNat - 'A'.toNat + 10)
  else none

/-- The value of a digit that is a byte. -/
def byteDigit? (b : UInt8) : Option Nat :=
  if 0x30 ≤ b && b ≤ 0x39 then some (b.toNat - 0x30)
  else if 0x61 ≤ b && b ≤ 0x66 then some (b.toNat - 0x57)
  else if 0x41 ≤ b && b ≤ 0x46 then some (b.toNat - 0x37)
  else none

/-- A digit in upper case. -/
def upperDigit (n : Nat) : Char :=
  (Nat.digitChar n).toUpper

/-- The digits of a number, in lower case. -/
def lowerDigits (n : Nat) : List Char :=
  Nat.toDigits 16 n

end Hexadecimal

end AlertRelay
