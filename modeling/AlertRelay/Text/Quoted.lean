/-
AlertRelay/Text/Quoted.lean

Texts in double quotes, as complaints quote them.

A quote and a backslash get a backslash, the five usual controls have short escapes, a character
that does not show on its own is written by its code point, and all else stands as it is.  So a
complaint stays on one line whatever the text holds.
-/
import AlertRelay.Number.Hexadecimal
import AlertRelay.Text.Printable

namespace AlertRelay

/-- One character between the quotes. -/
def quotedChar (c : Char) : List Char :=
  if c = '"' then ['\\', '"']
  else if c = '\\' then ['\\', '\\']
  else if c = '\x00' then ['\\', '0']
  else if c = '\t' then ['\\', 't']
  else if c = '\r' then ['\\', 'r']
  else if c = '\n' then ['\\', 'n']
  else if Printable.shows c then [c]
  else ['\\', 'u', '\x7b'] ++ Hexadecimal.lowerDigits c.toNat ++ ['\x7d']

/-- A text in double quotes. -/
def quoted (s : String) : String :=
  String.ofList ('"' :: s.toList.flatMap quotedChar ++ ['"'])

end AlertRelay
