/-
AlertRelay/Json/Reader.lean

Reading arrays, objects and whole values.

`items` and `fields` read what stands between brackets, whatever is wanted of the items or members:
the reader of one item is an argument.  So the reader of arbitrary values and the readers of typed
records share their punctuation and its faults.  `value` recurses over the number of brackets that
may still be opened, and the loops inside one bracket over a count that the bytes left bound.
-/
import AlertRelay.Json.Token

namespace AlertRelay

namespace Json

section

variable {α σ : Type}

/-! ### Arrays -/

/-- What follows an item: more items or the closing bracket. -/
def moreItems (item : Reader α) : Nat → List α → Reader (List α)
  | 0, _, s => .error (.taken .endInList s)
  | fuel + 1, done, s =>
    match skipBlank s with
    | [] => .error (.seen .endInList [])
    | 0x5d :: rest => .ok (done.reverse, rest)
    | 0x2c :: rest =>
      match skipBlank rest with
      | [] => .error (.seen .endInValue [])
      | 0x5d :: tail => .error (.seen .trailingComma (0x5d :: tail))
      | tail => do
        let (a, tail) ← item tail
        moreItems item fuel (a :: done) tail
    | b :: rest => .error (.seen .expectedCommaOrBracket (b :: rest))

/-- The items of an array, from the byte after its opening bracket. -/
def items (item : Reader α) (s : Bytes) : Except Fault (List α × Bytes) :=
  match skipBlank s with
  | [] => .error (.seen .endInList [])
  | 0x5d :: rest => .ok ([], rest)
  | rest => do
    let (a, rest) ← item rest
    moreItems item rest.length [a] rest

/-! ### Objects -/

/-- A colon after the name of a member. -/
def colon (s : Bytes) : Except Fault Bytes :=
  match skipBlank s with
  | [] => .error (.seen .endInObject [])
  | 0x3a :: rest => .ok rest
  | rest => .error (.seen .expectedColon rest)

/-- What follows a member: more members or the closing brace.  `step` reads one member, from the
byte after its name, into what was gathered before. -/
def moreFields (step : σ → String → Reader σ) : Nat → σ → Reader σ
  | 0, _, s => .error (.taken .endInObject s)
  | fuel + 1, gathered, s =>
    match skipBlank s with
    | [] => .error (.seen .endInObject [])
    | 0x7d :: rest => .ok (gathered, rest)
    | 0x2c :: rest =>
      match skipBlank rest with
      | [] => .error (.seen .endInValue [])
      | 0x22 :: tail => do
        let (name, tail) ← text tail
        let (gathered, tail) ← step gathered name tail
        moreFields step fuel gathered tail
      | 0x7d :: tail => .error (.seen .trailingComma (0x7d :: tail))
      | tail => .error (.seen .keyMustBeString tail)
    | b :: rest => .error (.seen .expectedCommaOrBrace (b :: rest))

/-- The members of an object, from the byte after its opening brace. -/
def fields (step : σ → String → Reader σ) (start : σ) (s : Bytes) : Except Fault (σ × Bytes) :=
  match skipBlank s with
  | [] => .error (.seen .endInObject [])
  | 0x7d :: rest => .ok (start, rest)
  | 0x22 :: rest => do
    let (name, rest) ← text rest
    let (gathered, rest) ← step start name rest
    moreFields step rest.length gathered rest
  | rest => .error (.seen .keyMustBeString rest)

end

/-- One member of an object of arbitrary values; the last member is gathered first. -/
def member (read : Reader Json) (done : Members) (name : String) (s : Bytes) :
    Except Fault (Members × Bytes) := do
  let s ← colon s
  let (v, s) ← read s
  pure ((name, v) :: done, s)

/-- The members of an object of arbitrary values, in the order of the text. -/
def members (read : Reader Json) (s : Bytes) : Except Fault (Members × Bytes) := do
  let (gathered, s) ← fields (member read) [] s
  pure (gathered.reverse, s)

/-! ### Values -/

/-- A value that holds no other, from its first byte. -/
def scalar : Reader Json
  | [] => .error (.seen .endInValue [])
  | b :: rest =>
    if b = 0x6e then do
      let rest ← ident ull rest
      pure (.null, rest)
    else if b = 0x74 then do
      let rest ← ident rue rest
      pure (.bool true, rest)
    else if b = 0x66 then do
      let rest ← ident alse rest
      pure (.bool false, rest)
    else if b = 0x22 then do
      let (s, rest) ← text rest
      pure (.string s, rest)
    else if b = 0x2d || (digit? b).isSome then do
      let (n, rest) ← number (b :: rest)
      match n with
      | .integer n => pure (.integer n, rest)
      | .float x => pure (.float x, rest)
    else .error (.seen .expectedValue (b :: rest))

/-- A value in which at most `depth` brackets are open at a time. -/
def value : (depth : Nat) → Reader Json
  | 0, s =>
    match skipBlank s with
    | 0x5b :: rest => .error (.seen .recursionLimit (0x5b :: rest))
    | 0x7b :: rest => .error (.seen .recursionLimit (0x7b :: rest))
    | s => scalar s
  | depth + 1, s =>
    match skipBlank s with
    | 0x5b :: rest => do
      let (vs, rest) ← items (value depth) rest
      pure (.array vs, rest)
    | 0x7b :: rest => do
      let (ms, rest) ← members (value depth) rest
      pure (.object ms, rest)
    | s => scalar s

/-- How many brackets may be open in a text. -/
def maxDepth : Nat := 127

/-- Nothing but blanks may follow what was read. -/
def finish {α : Type} (a : α) (rest : Bytes) : Except Fault α :=
  match skipBlank rest with
  | [] => .ok a
  | s => .error (.seen .trailingCharacters s)

/-- Runs a reader over a whole text. -/
def readWhole {α : Type} (read : Reader α) (s : Bytes) : Except Complaint α :=
  match read s with
  | .error f => .error (f.locate s)
  | .ok (a, rest) =>
    match finish a rest with
    | .error f => .error (f.locate s)
    | .ok a => .ok a

/-- The value that a whole text spells. -/
def parse (s : Bytes) : Except Complaint Json :=
  readWhole (value maxDepth) s

end Json

end AlertRelay
