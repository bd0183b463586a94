/-
AlertRelay/Json/Fault.lean

What can be wrong with a JSON text, and where.

A reader works on the bytes that are left and knows nothing of those before them.  So a `Fault`
says how many bytes were left when it was found, and only `Fault.locate`, which has the whole text,
turns that into a line and a column.  Two conventions cover all readers: a byte that was only
looked at counts as consumed (`Fault.seen`), one that was taken counts anyway (`Fault.taken`).

A complaint about the type of a field has no place of its own when the field was decoded from a
value instead of a text; then the message ends without one.
-/
import AlertRelay.Json.Value
import AlertRelay.Number.Shortest
import AlertRelay.Text.Quoted
import AlertRelay.Text.Utf8

namespace AlertRelay

namespace Json

/-! ### Causes -/

/-- What stood where something else was wanted. -/
inductive Found where
  | null
  | bool (b : Bool)
  | integer (n : Int)
  | float (x : Binary64)
  | string (s : String)
  | sequence
  | map
deriving DecidableEq, Repr

/-- What was wanted. -/
inductive Wanted where
  | string
  | int64
  | map
  | record (name : String)
deriving DecidableEq, Repr

/-- Why a text is not what was asked for. -/
inductive Cause where
  | endInList
  | endInObject
  | endInString
  | endInValue
  | expectedColon
  | expectedCommaOrBracket
  | expectedCommaOrBrace
  | expectedIdent
  | expectedValue
  | invalidEscape
  | invalidNumber
  | numberOutOfRange
  | invalidUnicode
  | controlCharacter
  | keyMustBeString
  | loneSurrogate
  | trailingComma
  | trailingCharacters
  | unfinishedSurrogate
  | recursionLimit
  | invalidType (found : Found) (wanted : Wanted)
  | invalidValue (n : Int) (wanted : Wanted)
  | duplicateField (name : String)
deriving DecidableEq, Repr

/-- Fractions in complaints are positional from `1e-5` up to sixteen digits before the point, and
an exponent has a sign and at least two digits. -/
def floatLayout : Binary64.Layout := ⟨-5, 15, 2⟩

/-- What stood there, in words. -/
def Found.text : Found → String
  | .null => "null"
  | .bool b => s!"boolean `{b}`"
  | .integer n => s!"integer `{n}`"
  | .float x => s!"floating point `{x.text floatLayout}`"
  | .string s => "string " ++ quoted s
  | .sequence => "sequence"
  | .map => "map"

/-- What was wanted, in words. -/
def Wanted.text : Wanted → String
  | .string => "a string"
  | .int64 => "i64"
  | .map => "a map"
  | .record name => "struct " ++ name

/-- A cause in words. -/
def Cause.text : Cause → String
  | .endInList => "EOF while parsing a list"
  | .endInObject => "EOF while parsing an object"
  | .endInString => "EOF while parsing a string"
  | .endInValue => "EOF while parsing a value"
  | .expectedColon => "expected `:`"
  | .expectedCommaOrBracket => "expected `,` or `]`"
  | .expectedCommaOrBrace => "expected `,` or `\x7d`"
  | .expectedIdent => "expected ident"
  | .expectedValue => "expected value"
  | .invalidEscape => "invalid escape"
  | .invalidNumber => "invalid number"
  | .numberOutOfRange => "number out of range"
  | .invalidUnicode => "invalid unicode code point"
  | .controlCharacter => "control character (\\u0000-\\u001F) found while parsing a string"
  | .keyMustBeString => "key must be a string"
  | .loneSurrogate => "lone leading surrogate in hex escape"
  | .trailingComma => "trailing comma"
  | .trailingCharacters => "trailing characters"
  | .unfinishedSurrogate => "unexpected end of hex escape"
  | .recursionLimit => "recursion limit exceeded"
  | .invalidType found wanted => "invalid type: " ++ found.text ++ ", expected " ++ wanted.text
  | .invalidValue n wanted => s!"invalid value: integer `{n}`, expected " ++ wanted.text
  | .duplicateField name => "duplicate field `" ++ name ++ "`"

/-! ### Places -/

/-- A cause, and how many bytes were left when it was found. -/
structure Fault where
  cause : Cause
  left : Nat
deriving DecidableEq, Repr

/-- A fault at the first of the bytes left, which was only looked at. -/
def Fault.seen (cause : Cause) (rest : Bytes) : Fault :=
  ⟨cause, rest.length - 1⟩

/-- A fault at the byte before those left. -/
def Fault.taken (cause : Cause) (rest : Bytes) : Fault :=
  ⟨cause, rest.length⟩

/-- A way of reading a value at the head of some bytes; what is left comes with the value. -/
abbrev Reader (α : Type) : Type := Bytes → Except Fault (α × Bytes)

/-- A line and a column, counted from one and in bytes. -/
structure Place where
  line : Nat
  column : Nat
deriving DecidableEq, Repr

/-- Walks over consumed bytes: a line feed starts a line. -/
def Place.advance (p : Place) (b : UInt8) : Place :=
  if b = 0x0a then ⟨p.line + 1, 0⟩ else ⟨p.line, p.column + 1⟩

/-- The place after some bytes. -/
def Place.after (consumed : Bytes) : Place :=
  consumed.foldl Place.advance ⟨1, 0⟩

/-- A cause with its place, if it has one. -/
structure Complaint where
  cause : Cause
  place : Option Place
deriving DecidableEq, Repr

/-- A complaint about a value that was not read from a text. -/
def Complaint.bare (cause : Cause) : Complaint :=
  ⟨cause, none⟩

/-- The complaint about a whole text. -/
def Fault.locate (f : Fault) (text : Bytes) : Complaint :=
  ⟨f.cause, some (Place.after (text.take (text.length - f.left)))⟩

/-- A complaint in words. -/
def Complaint.message (c : Complaint) : String :=
  match c.place with
  | none => c.cause.text
  | some p => c.cause.text ++ s!" at line {p.line} column {p.column}"

end Json

end AlertRelay
