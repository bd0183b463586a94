/-
AlertRelay/Toml/Reader.lean

Reading a TOML document.

A document is read line by line.  A line is blank, holds a header, or a key and a value; a comment
may stand at its end.  Lines add to one table (`Toml.within`), under the header they stand under.

Only that a text is no document is reported, not why.  Brackets may be nested so deep and no
deeper.
-/
import AlertRelay.Toml.Number

namespace AlertRelay

namespace Toml

/-- One more than the number of brackets that can be open, or of the parts of a key. -/
def depthLimit : Nat := 80

/-! ### Between the words -/

/-- Drops spaces and tabs. -/
def skipSpace : List Char → List Char
  | ' ' :: rest => skipSpace rest
  | '\t' :: rest => skipSpace rest
  | s => s

/-- What follows the end of a line, which may have a comment. -/
def lineEnd : (inComment : Bool) → List Char → Option (List Char)
  | _, [] => some []
  | _, '\n' :: rest => some rest
  | _, '\r' :: '\n' :: rest => some rest
  | true, c :: rest => if isPlain c then lineEnd true rest else none
  | false, ' ' :: rest => lineEnd false rest
  | false, '\t' :: rest => lineEnd false rest
  | false, '#' :: rest => lineEnd true rest
  | false, _ => none

/-- Drops spaces, line breaks and comments. -/
def skipLines : (inComment : Bool) → List Char → Option (List Char)
  | true, '\n' :: rest => skipLines false rest
  | true, '\r' :: '\n' :: rest => skipLines false rest
  | true, c :: rest => if isPlain c then skipLines true rest else none
  | true, [] => none
  | false, ' ' :: rest => skipLines false rest
  | false, '\t' :: rest => skipLines false rest
  | false, '\n' :: rest => skipLines false rest
  | false, '\r' :: '\n' :: rest => skipLines false rest
  | false, '#' :: rest => skipLines true rest
  | false, s => some s

/-! ### Keys -/

/-- Whether a character can stand in a key without quotes. -/
def isKeyChar (c : Char) : Bool :=
  c.isAlphanum || c = '-' || c = '_'

/-- One part of a key. -/
def keyPart : List Char → Option (String × List Char)
  | '"' :: rest => basic .plain [] rest
  | '\'' :: rest => literal [] rest
  | s =>
    match s.takeWhile isKeyChar with
    | [] => none
    | part => some (String.ofList part, s.dropWhile isKeyChar)

/-- A key with at most so many parts. -/
def key : (parts : Nat) → List Char → Option (List String × List Char)
  | 0, _ => none
  | parts + 1, s => do
    let (k, s) ← keyPart (skipSpace s)
    match skipSpace s with
    | '.' :: rest =>
      let (ks, rest) ← key parts rest
      some (k :: ks, rest)
    | rest => some ([k], rest)

/-- The way to the last part of a key, and that part. -/
def splitKey (parts : List String) : Option (List String × String) :=
  parts.getLast?.map fun k => (parts.dropLast, k)

/-- A key, an equals sign and a value that another reader reads. -/
def keyValue (read : List Char → Option (Toml × List Char)) (s : List Char) :
    Option (List String × String × Toml × List Char) := do
  let (parts, s) ← key (depthLimit - 1) s
  let (path, k) ← splitKey parts
  let s ← after '=' s
  let (v, s) ← read (skipSpace s)
  some (path, k, v, s)

/-! ### Values -/

/-- The items of a list, up to its closing bracket. -/
def items (read : List Char → Option (Toml × List Char)) :
    (fuel : Nat) → (done : List Toml) → List Char → Option (Toml × List Char)
  | 0, _, _ => none
  | fuel + 1, done, s => do
    match ← skipLines false s with
    | ']' :: rest => some (.array done.reverse, rest)
    | s =>
      let (v, s) ← read s
      match ← skipLines false s with
      | ',' :: rest => items read fuel (v :: done) rest
      | ']' :: rest => some (.array (v :: done).reverse, rest)
      | _ => none

/-- The entries of a table in braces, up to its closing brace. -/
def inlineEntries (read : List Char → Option (Toml × List Char)) :
    (fuel : Nat) → Entries → List Char → Option (Toml × List Char)
  | 0, _, _ => none
  | fuel + 1, entries, s => do
    let (path, k, v, s) ← keyValue read s
    let entries ← addDotted path k v entries
    match skipSpace s with
    | ',' :: rest => inlineEntries read fuel entries rest
    | '\x7d' :: rest => some (.table .inline entries, rest)
    | _ => none

/-- A table in braces, after the opening one. -/
def inlineTable (read : List Char → Option (Toml × List Char)) (s : List Char) :
    Option (Toml × List Char) :=
  match skipSpace s with
  | '\x7d' :: rest => some (.table .inline [], rest)
  | s => inlineEntries read (s.length + 1) [] s

/-- A value in which fewer than so many brackets are open at once. -/
def readValue : (depth : Nat) → List Char → Option (Toml × List Char)
  | 0, _ => none
  | depth + 1, s =>
    match s with
    | '[' :: rest => if depth = 0 then none else items (readValue depth) (rest.length + 1) [] rest
    | '\x7b' :: rest => if depth = 0 then none else inlineTable (readValue depth) rest
    | 't' :: 'r' :: 'u' :: 'e' :: rest => some (.bool true, rest)
    | 'f' :: 'a' :: 'l' :: 's' :: 'e' :: rest => some (.bool false, rest)
    | s => (readText s).map (fun r => (.string r.1, r.2)) <|> readNumber s

/-! ### Lines -/

/-- What has been read of a document: the header that lines stand under, and the table. -/
structure Draft where
  header : List String := []
  root : Entries := []

/-- Adds a value under the header. -/
def Draft.add (d : Draft) (path : List String) (k : String) (v : Toml) : Option Draft :=
  (within false (fun _ sub => addDotted path k v sub) d.header .header d.root).map fun root =>
    { d with root := root }

/-- Puts what follows under a header. -/
def Draft.open (d : Draft) (change : String → Entries → Option Entries) (parts : List String) :
    Option Draft := do
  let (path, k) ← splitKey parts
  let root ← within false (fun _ sub => change k sub) path .header d.root
  some ⟨parts, root⟩

/-- Reads a line that is not blank. -/
def line (d : Draft) (s : List Char) : Option (Draft × List Char) := do
  match s with
  | '[' :: '[' :: rest =>
    let (parts, rest) ← key (depthLimit - 1) rest
    let rest ← after ']' rest
    let rest ← after ']' rest
    let d ← d.open openItem parts
    some (d, rest)
  | '[' :: rest =>
    let (parts, rest) ← key (depthLimit - 1) rest
    let rest ← after ']' rest
    let d ← d.open openTable parts
    some (d, rest)
  | s =>
    let (path, k, v, rest) ← keyValue (readValue depthLimit) s
    let d ← d.add path k v
    some (d, rest)

/-- Whether the rest of a line, spaces dropped, holds nothing but a comment. -/
def isBlankLine : List Char → Bool
  | '\n' :: _ => true
  | '\r' :: _ => true
  | '#' :: _ => true
  | _ => false

/-- Reads so many lines. -/
def lines : (fuel : Nat) → Draft → List Char → Option Entries
  | 0, _, _ => none
  | fuel + 1, d, s =>
    match skipSpace s with
    | [] => some d.root
    | s =>
      if isBlankLine s then do
        let s ← lineEnd false s
        lines fuel d s
      else do
        let (d, s) ← line d s
        let s ← lineEnd false s
        lines fuel d s

/-- Drops the mark that some editors put before a text. -/
def dropMark : List Char → List Char
  | '\ufeff' :: rest => rest
  | s => s

/-- The table that a document spells. -/
def parse? (text : String) : Option Entries :=
  let s := dropMark text.toList
  lines (s.length + 1) {} s

end Toml

end AlertRelay
