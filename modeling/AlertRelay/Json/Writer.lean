/-
AlertRelay/Json/Writer.lean

Writing a JSON value: no blanks, members in the order they are held, whole numbers in decimal.

Inside a string only the quote, the backslash and the controls below the space are escaped, five
controls by a letter and the others by four lower-case digits; every other character stands as it
is.  The writer goes over characters, the reader over bytes; `utf8` takes one to the other.
-/
import AlertRelay.Json.Fault

namespace AlertRelay

namespace Json

/-! ### Strings -/

/-- A number below 256 as four hexadecimal digits. -/
def fourDigits (n : Nat) : List Char :=
  ['0', '0', Nat.digitChar (n / 16), Nat.digitChar (n % 16)]

/-- One character of a string. -/
def escaped (c : Char) : List Char :=
  if c = '"' then ['\\', '"']
  else if c = '\\' then ['\\', '\\']
  else if c = '\n' then ['\\', 'n']
  else if c = '\r' then ['\\', 'r']
  else if c = '\t' then ['\\', 't']
  else if c = '\x08' then ['\\', 'b']
  else if c = '\x0c' then ['\\', 'f']
  else if c.toNat < 0x20 then '\\' :: 'u' :: fourDigits c.toNat
  else [c]

/-- A string with its quotes. -/
def stringChars (s : String) : List Char :=
  '"' :: s.toList.flatMap escaped ++ ['"']

/-! ### Values -/

mutual

/-- The characters of a value. -/
def chars : Json → List Char
  | .null => ['n', 'u', 'l', 'l']
  | .bool true => ['t', 'r', 'u', 'e']
  | .bool false => ['f', 'a', 'l', 's', 'e']
  | .integer n => (toString n).toList
  | .float x => (x.text floatLayout).toList
  | .string s => stringChars s
  | .array items => '[' :: itemChars items
  | .object members => '\x7b' :: memberChars members

/-- Items with commas between them, and the closing bracket. -/
def itemChars : List Json → List Char
  | [] => [']']
  | [v] => chars v ++ [']']
  | v :: rest => chars v ++ ',' :: itemChars rest

/-- Members with commas between them, and the closing brace. -/
def memberChars : List (String × Json) → List Char
  | [] => ['\x7d']
  | [(name, v)] => stringChars name ++ ':' :: (chars v ++ ['\x7d'])
  | (name, v) :: rest => stringChars name ++ ':' :: (chars v ++ ',' :: memberChars rest)

end

/-- The text of a value. -/
def write (v : Json) : String :=
  String.ofList (chars v)

end Json

end AlertRelay
