/-
AlertRelay/Environment.lean

Variables of the environment, and files of them.

A file has one variable a line, as a name, an equals sign and a value; `export` may stand before
the name.  A value ends at the line or at a blank.  Within quotes nothing ends it, not even the
line.  A backslash stands before a character that is meant as it is, outside single quotes.  A line
that begins with `#` is passed over.

The variables of a file are weaker than those that are set already, and a line that is none of these
ends the file.
-/
import AlertRelay.Files.Disk
import AlertRelay.Text.Blank

namespace AlertRelay

/-- Variables of the environment. -/
abbrev Environment := KeyedMap String

namespace Environment

/-! ### Lines -/

/-- Where a reader of lines stands. -/
inductive Quoting where
  | outside
  | within (quote : Char)
deriving DecidableEq, Repr

/-- Whether a character is a quote. -/
def isQuote (c : Char) : Bool :=
  c = '"' || c = '\''

/-- The place after a character. -/
def Quoting.after : Quoting → Char → Quoting
  | .outside, c => if isQuote c then .within c else .outside
  | .within quote, c => if c = quote then .outside else .within quote

/-- The lines of a file; a line does not end within quotes. -/
def lines : (line : List Char) → Quoting → List Char → List (List Char)
  | line, _, [] => [line.reverse]
  | line, q, '\\' :: c :: rest => lines (c :: '\\' :: line) q rest
  | line, .outside, '\r' :: '\n' :: rest => line.reverse :: lines [] .outside rest
  | line, .outside, '\n' :: rest => line.reverse :: lines [] .outside rest
  | line, q, c :: rest => lines (c :: line) (q.after c) rest

/-! ### Names -/

/-- Whether a character can begin a name. -/
def beginsName (c : Char) : Bool :=
  c.isAlpha || c = '_'

/-- Whether a character can continue a name. -/
def inName (c : Char) : Bool :=
  c.isAlphanum || c = '_' || c = '.'

/-- Drops blanks from the beginning. -/
def dropBlanks (cs : List Char) : List Char :=
  cs.dropWhile isBlank

/-- A name and what follows it and the blanks behind it. -/
def readName? (cs : List Char) : Option (List Char × List Char) :=
  if cs.head?.any beginsName then some (cs.takeWhile inName, dropBlanks (cs.dropWhile inName))
  else none

/-- What follows an equals sign. -/
def afterEquals? : List Char → Option (List Char)
  | '=' :: rest => some (dropBlanks rest)
  | _ => none

/-- A name, and what follows its equals sign. -/
def readAssignment? (cs : List Char) : Option (List Char × List Char) :=
  match readName? cs with
  | none => none
  | some (name, rest) =>
    match afterEquals? rest with
    | some value => some (name, value)
    | none =>
      if name = "export".toList then
        match readName? rest with
        | none => none
        | some (name, rest) => (afterEquals? rest).map (name, ·)
      else none

/-! ### Values -/

/-- Where a reader of a value stands. -/
inductive ValuePlace where
  | plain
  | within (quote : Char)
  /-- Behind the value. -/
  | behind
deriving DecidableEq, Repr

/-- The character that one behind a backslash stands for. -/
def escaped? (c : Char) : Option Char :=
  if c = 'n' then some '\n'
  else if ['\\', '\'', '"', '$', ' '].contains c then some c
  else none

/-- Reads a value. -/
def readValue? : (value : List Char) → ValuePlace → List Char → Option (List Char)
  | _, .within _, [] => none
  | value, _, [] => some value.reverse
  | value, .behind, c :: rest =>
    if c = ' ' || c = '\t' then readValue? value .behind rest
    else if c = '#' then some value.reverse
    else none
  | value, .within quote, c :: rest =>
    if c = quote then readValue? value .plain rest
    else if c = '\\' && quote = '"' then
      match rest with
      | [] => none
      | d :: rest => (escaped? d).bind fun d => readValue? (d :: value) (.within quote) rest
    else readValue? (c :: value) (.within quote) rest
  | value, .plain, c :: rest =>
    if isQuote c then readValue? value (.within c) rest
    else if c = '\\' then
      match rest with
      | [] => some value.reverse
      | d :: rest => (escaped? d).bind fun d => readValue? (d :: value) .plain rest
    else if c = ' ' || c = '\t' then readValue? value .behind rest
    else readValue? (c :: value) .plain rest

/-! ### Files -/

/-- Whether a line is passed over. -/
def isPassedOver (line : List Char) : Bool :=
  let line := dropBlanks line
  line = [] || line.head? = some '#'

/-- The variable of a line. -/
def readLine? (line : List Char) : Option (String × String) := do
  let (name, value) ← readAssignment? (dropBlanks line)
  let value ← if value.head? = some '#' then some [] else readValue? [] .plain value
  some (String.ofList name, String.ofList value)

/-- The variables with those of some lines, up to the first that is none. -/
def addLines (env : Environment) : List (List Char) → Environment
  | [] => env
  | line :: rest =>
    if isPassedOver line then addLines env rest
    else
      match readLine? line with
      | none => env
      | some (name, value) =>
        addLines (if (env.get? name).isSome then env else env.insert name value) rest

/-- The name of a file of variables. -/
def fileName : String := ".env"

/-- The variables with those of the file at the place that is worked at. -/
def withFile (env : Environment) (d : Disk) : Environment :=
  match d.readText fileName with
  | .error _ => env
  | .ok text => addLines env (lines [] .outside text.toList)

end Environment

end AlertRelay
