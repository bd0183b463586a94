/-
AlertRelay/Url/Percent.lean

Characters in a URL that cannot stand for themselves.

Such a character is written as the bytes that spell it, each as a percent sign and two digits.  What
has to be written that way depends on the part of the URL, and every part has its own set.
-/
import AlertRelay.Number.Hexadecimal
import AlertRelay.Text.Utf8

namespace AlertRelay

namespace Percent

/-! ### Sets -/

/-- Controls, and everything beyond ASCII: they are escaped everywhere. -/
def inAny (c : Char) : Bool :=
  c < ' ' || '~' < c

/-- The set of a fragment. -/
def inFragment (c : Char) : Bool :=
  inAny c || [' ', '"', '<', '>', '\x60'].contains c

/-- The set of a path. -/
def inPath (c : Char) : Bool :=
  inFragment c || ['#', '?', '\x7b', '\x7d'].contains c

/-- The set of a name and a password. -/
def inUserInfo (c : Char) : Bool :=
  inPath c || ['/', ':', ';', '=', '@', '[', '\\', ']', '^', '|'].contains c

/-- The set of a query. -/
def inQuery (c : Char) : Bool :=
  inAny c || [' ', '"', '#', '<', '>'].contains c

/-- The set of a query in a scheme that everybody knows. -/
def inSpecialQuery (c : Char) : Bool :=
  inQuery c || c = '\''

/-! ### Writing -/

/-- A byte as percent sign and two digits. -/
def byte (b : UInt8) : List Char :=
  ['%', Hexadecimal.upperDigit (b.toNat / 16), Hexadecimal.upperDigit (b.toNat % 16)]

/-- A text in which the characters of a set are escaped. -/
def encode (escaped : Char → Bool) (s : List Char) : List Char :=
  s.flatMap fun c => if escaped c then (String.utf8EncodeChar c).flatMap byte else [c]

/-! ### Reading -/

/-- The bytes that a text with escapes spells.  A percent sign without two digits is itself. -/
def decode : Bytes → Bytes
  | 0x25 :: a :: b :: rest =>
    match Hexadecimal.byteDigit? a, Hexadecimal.byteDigit? b with
    | some m, some n => UInt8.ofNat (16 * m + n) :: decode rest
    | _, _ => 0x25 :: decode (a :: b :: rest)
  | b :: rest => b :: decode rest
  | [] => []

end Percent

end AlertRelay
