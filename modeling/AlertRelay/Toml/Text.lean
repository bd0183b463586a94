/-
AlertRelay/Toml/Text.lean

Texts in a TOML document.

There are four kinds: between one quote or three, and with escapes (`"`) or without (`'`).  Each
reader starts after the opening quotes and walks over the characters one at a time; what it has to
remember about the character before is its place.

Between three quotes a text may hold line breaks, of which the very first does not count, and one
or two quotes in a row.  Up to five quotes can therefore stand at its end, of which the last three
close it.  A carriage return stands only before a line feed, and the two are read as a line feed.
-/
import AlertRelay.Number.Decimal
import AlertRelay.Number.Hexadecimal

namespace AlertRelay

namespace Toml

/-- Whether a character can stand as it is: everything but the controls; a tab can. -/
def isPlain (c : Char) : Bool :=
  c = '\t' || (0x20 ≤ c.toNat && c ≠ '\x7f')

/-! ### Escapes -/

/-- The character that a letter after a backslash stands for. -/
def shortEscape? : Char → Option Char
  | 'b' => some '\x08'
  | 't' => some '\t'
  | 'n' => some '\n'
  | 'f' => some '\x0c'
  | 'r' => some '\r'
  | '"' => some '"'
  | '\\' => some '\\'
  | _ => none

/-- How many digits follow the letter of a code point. -/
def codeLength? : Char → Option Nat
  | 'u' => some 4
  | 'U' => some 8
  | _ => none

/-- The character with a code point. -/
def ofCodePoint? (n : Nat) : Option Char :=
  if n.isValidChar then some (Char.ofNat n) else none

/-- Where a reader of a text with escapes stands. -/
inductive Place where
  /-- Between characters. -/
  | plain
  /-- After a backslash. -/
  | escape
  /-- In a code point: so many digits follow. -/
  | code (more value : Nat)
  /-- Between a backslash and the line break it hides. -/
  | toBreak
  /-- After that line break. -/
  | joining
deriving DecidableEq, Repr

/-- What a character after a backslash leads to: a character, or a place. -/
def afterBackslash (c : Char) : Option (Option Char × Place) :=
  match shortEscape? c with
  | some e => some (some e, .plain)
  | none => (codeLength? c).map fun n => (none, .code (n - 1) 0)

/-- What a digit of a code point leads to. -/
def afterDigit (more value : Nat) (c : Char) : Option (Option Char × Place) :=
  match Hexadecimal.digit? c with
  | none => none
  | some d =>
    match more with
    | 0 => (ofCodePoint? (16 * value + d)).map fun e => (some e, .plain)
    | n + 1 => some (none, .code n (16 * value + d))

/-- The characters read so far, the last one first, and one more. -/
def pushed (done : List Char) : Option Char → List Char
  | none => done
  | some c => c :: done

/-! ### One line -/

/-- Reads the rest of a text with escapes. -/
def basic : Place → (done : List Char) → List Char → Option (String × List Char)
  | _, _, [] => none
  | .escape, done, c :: rest =>
    match afterBackslash c with
    | none => none
    | some (e, place) => basic place (pushed done e) rest
  | .code more value, done, c :: rest =>
    match afterDigit more value c with
    | none => none
    | some (e, place) => basic place (pushed done e) rest
  | _, done, '"' :: rest => some (String.ofList done.reverse, rest)
  | _, done, '\\' :: rest => basic .escape done rest
  | _, done, c :: rest => if isPlain c then basic .plain (c :: done) rest else none

/-- Reads the rest of a text without escapes. -/
def literal : (done : List Char) → List Char → Option (String × List Char)
  | _, [] => none
  | done, '\'' :: rest => some (String.ofList done.reverse, rest)
  | done, c :: rest => if isPlain c then literal (c :: done) rest else none

/-! ### Several lines -/

/-- Drops a line break at the very beginning. -/
def dropBreak : List Char → List Char
  | '\n' :: rest => rest
  | '\r' :: '\n' :: rest => rest
  | s => s

/-- Reads the rest of a text with escapes between three quotes. -/
def basicLines : Place → (done : List Char) → List Char → Option (String × List Char)
  | _, _, [] => none
  | .escape, done, '\n' :: rest => basicLines .joining done rest
  | .escape, done, '\r' :: '\n' :: rest => basicLines .joining done rest
  | .escape, done, ' ' :: rest => basicLines .toBreak done rest
  | .escape, done, '\t' :: rest => basicLines .toBreak done rest
  | .escape, done, c :: rest =>
    match afterBackslash c with
    | none => none
    | some (e, place) => basicLines place (pushed done e) rest
  | .code more value, done, c :: rest =>
    match afterDigit more value c with
    | none => none
    | some (e, place) => basicLines place (pushed done e) rest
  | .toBreak, done, '\n' :: rest => basicLines .joining done rest
  | .toBreak, done, '\r' :: '\n' :: rest => basicLines .joining done rest
  | .toBreak, done, ' ' :: rest => basicLines .toBreak done rest
  | .toBreak, done, '\t' :: rest => basicLines .toBreak done rest
  | .toBreak, _, _ :: _ => none
  | .joining, done, ' ' :: rest => basicLines .joining done rest
  | .joining, done, '\t' :: rest => basicLines .joining done rest
  | .joining, done, '\n' :: rest => basicLines .joining done rest
  | .joining, done, '\r' :: '\n' :: rest => basicLines .joining done rest
  | _, done, '"' :: '"' :: '"' :: '"' :: '"' :: rest =>
    some (String.ofList (done.reverse ++ ['"', '"']), rest)
  | _, done, '"' :: '"' :: '"' :: '"' :: rest => some (String.ofList (done.reverse ++ ['"']), rest)
  | _, done, '"' :: '"' :: '"' :: rest => some (String.ofList done.reverse, rest)
  | _, done, '\\' :: rest => basicLines .escape done rest
  | _, done, '\n' :: rest => basicLines .plain ('\n' :: done) rest
  | _, done, '\r' :: '\n' :: rest => basicLines .plain ('\n' :: done) rest
  | _, done, c :: rest => if isPlain c then basicLines .plain (c :: done) rest else none

/-- Reads the rest of a text without escapes between three quotes. -/
def literalLines : (done : List Char) → List Char → Option (String × List Char)
  | _, [] => none
  | done, '\'' :: '\'' :: '\'' :: '\'' :: '\'' :: rest =>
    some (String.ofList (done.reverse ++ ['\'', '\'']), rest)
  | done, '\'' :: '\'' :: '\'' :: '\'' :: rest =>
    some (String.ofList (done.reverse ++ ['\'']), rest)
  | done, '\'' :: '\'' :: '\'' :: rest => some (String.ofList done.reverse, rest)
  | done, '\n' :: rest => literalLines ('\n' :: done) rest
  | done, '\r' :: '\n' :: rest => literalLines ('\n' :: done) rest
  | done, c :: rest => if isPlain c then literalLines (c :: done) rest else none

/-- Reads a text of any kind. -/
def readText : List Char → Option (String × List Char)
  | '"' :: '"' :: '"' :: rest => basicLines .plain [] (dropBreak rest)
  | '"' :: rest => basic .plain [] rest
  | '\'' :: '\'' :: '\'' :: rest => literalLines [] (dropBreak rest)
  | '\'' :: rest => literal [] rest
  | _ => none

end Toml

end AlertRelay
