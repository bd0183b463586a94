/-
AlertRelay/Toml/Writer.lean

Writing a TOML document of sections: a header and the entries under it, a blank line between two
sections.

A text is written in the plainest of the four kinds that can hold it (`styleOf`).  A text with
controls can only be escaped; one with line breaks stands between three quotes and begins on a
line of its own.  What is escaped is written with a short escape or by its code point.
-/
import AlertRelay.Toml.Text
import AlertRelay.Toml.Value

namespace AlertRelay

namespace Toml

/-! ### Texts -/

/-- The kinds of texts. -/
inductive Style where
  | basic
  | literal
  | basicLines
  | literalLines
deriving DecidableEq, Repr

/-- The quotes of a kind. -/
def Style.quotes : Style → List Char
  | .basic => ['"']
  | .literal => ['\'']
  | .basicLines => ['"', '"', '"']
  | .literalLines => ['\'', '\'', '\'']

/-- Whether a kind can go over several lines. -/
def Style.isLong : Style → Bool
  | .basicLines => true
  | .literalLines => true
  | _ => false

/-- Whether a character stands in no text without an escape. -/
def needsCode (c : Char) : Bool :=
  (c.toNat < 0x20 && c ≠ '\t' && c ≠ '\n') || c = '\x7f'

/-- The length of the longest run of a character. -/
def longestRun (c : Char) : (run : Nat) → List Char → Nat
  | run, [] => run
  | run, d :: rest =>
    if d = c then longestRun c (run + 1) rest else max run (longestRun c 0 rest)

/-- The plainest kind that can hold a text. -/
def styleOf (cs : List Char) : Style :=
  let coded := cs.any needsCode
  let broken := cs.contains '\n'
  let slashed := cs.contains '\\'
  let double := longestRun '"' 0 cs
  let single := longestRun '\'' 0 cs
  if !coded && !slashed && !broken && double = 0 then .basic
  else if !coded && !broken && single = 0 then .literal
  else if !coded && !slashed && double ≤ 2 then .basicLines
  else if !coded && single ≤ 2 then .literalLines
  else if broken then .basicLines
  else .basic

/-- A code point below 256 with its escape. -/
def coded (c : Char) : List Char :=
  ['\\', 'u', '0', '0', Hexadecimal.upperDigit (c.toNat / 16),
        Hexadecimal.upperDigit (c.toNat % 16)]

/-- A character that is escaped in a text with escapes, as it is written there. -/
def escape? (long : Bool) (c : Char) : Option (List Char) :=
  if c = '\x08' then some ['\\', 'b']
  else if c = '\t' then some ['\\', 't']
  else if c = '\n' then (if long then none else some ['\\', 'n'])
  else if c = '\x0c' then some ['\\', 'f']
  else if c = '\r' then some ['\\', 'r']
  else if c = '\\' then some ['\\', '\\']
  else if needsCode c then some (coded c)
  else none

/-- Characters with escapes.  So many quotes may stand in a row; `run` of them do. -/
def escapedChars (long : Bool) (quotes : Nat) : (run : Nat) → List Char → List Char
  | _, [] => []
  | run, c :: rest =>
    if c = '"' then
      if run < quotes then '"' :: escapedChars long quotes (run + 1) rest
      else '\\' :: '"' :: escapedChars long quotes 0 rest
    else
      match escape? long c with
      | some e => e ++ escapedChars long quotes 0 rest
      | none => c :: escapedChars long quotes 0 rest

/-- The characters between the quotes. -/
def Style.body (style : Style) (cs : List Char) : List Char :=
  match style with
  | .basic => escapedChars false 0 0 cs
  | .basicLines => escapedChars true 2 0 cs
  | _ => cs

/-- A text with its quotes. -/
def textChars (cs : List Char) : List Char :=
  let style := styleOf cs
  let opening := if style.isLong && cs.contains '\n' then ['\n'] else []
  style.quotes ++ opening ++ style.body cs ++ style.quotes

/-! ### Sections -/

/-- The values that a section holds. -/
inductive Scalar where
  | text (s : String)
  | integer (n : Int)
  | bool (b : Bool)
deriving DecidableEq, Repr

/-- The value of a scalar. -/
def Scalar.toml : Scalar → Toml
  | .text s => .string s
  | .integer n => .integer n
  | .bool b => .bool b

/-- A scalar as it is written. -/
def Scalar.chars : Scalar → List Char
  | .text s => textChars s.toList
  | .integer n => (toString n).toList
  | .bool true => ['t', 'r', 'u', 'e']
  | .bool false => ['f', 'a', 'l', 's', 'e']

/-- A header and what stands under it. -/
structure Section where
  name : String
  entries : List (String × Scalar)
deriving DecidableEq, Repr

/-- The line of an entry. -/
def entryChars (e : String × Scalar) : List Char :=
  e.1.toList ++ [' ', '=', ' '] ++ e.2.chars ++ ['\n']

/-- The lines of a section. -/
def Section.chars (s : Section) : List Char :=
  '[' :: s.name.toList ++ [']', '\n'] ++ s.entries.flatMap entryChars

/-- The characters of a document. -/
def documentChars (sections : List Section) : List Char :=
  ['\n'].intercalate (sections.map Section.chars)

/-- The text of a document. -/
def write (sections : List Section) : String :=
  String.ofList (documentChars sections)

end Toml

end AlertRelay
