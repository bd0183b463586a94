/-
AlertRelay/Json/Field.lean

The types that a field can have.

There are two ways to a field: from the bytes of a text (`readString`, `readInt64`, ...) and from
a value that has been read already (`asString`, `asInt64`, ...).  They accept the same and
complain in the same words; the first way also knows the place.  A field that is `null` counts as
left out (`nullable`), except where a caller asks for the plain type.
-/
import AlertRelay.Json.Skip

namespace AlertRelay

namespace Json

/-! ### Whole numbers of 64 bits -/

/-- The greatest signed number of 64 bits. -/
def int64Max : Int := (Nat.pow 2 63 : Nat) - 1

/-- A number as a signed number of 64 bits. -/
def int64Of : Number → Except Cause Int
  | .integer n => if n ≤ int64Max then .ok n else .error (.invalidValue n .int64)
  | .float x => .error (.invalidType (.float x) .int64)

/-! ### From a value -/

/-- What a value is, for a complaint. -/
def found : Json → Found
  | .null => .null
  | .bool b => .bool b
  | .integer n => .integer n
  | .float x => .float x
  | .string s => .string s
  | .array _ => .sequence
  | .object _ => .map

/-- A value as a text. -/
def asString : Json → Except Cause String
  | .string s => .ok s
  | v => .error (.invalidType v.found .string)

/-- A value as a signed number of 64 bits. -/
def asInt64 : Json → Except Cause Int
  | .integer n => int64Of (.integer n)
  | v => .error (.invalidType v.found .int64)

/-- A value as an object of texts, in the order of its members. -/
def asTexts : Json → Except Cause (List (String × String))
  | .object members => members.mapM fun m => do
    let s ← m.2.asString
    pure (m.1, s)
  | v => .error (.invalidType v.found .map)

/-- A value that may be `null`. -/
def asNullable {α : Type} (read : Json → Except Cause α) : Json → Except Cause (Option α)
  | .null => .ok none
  | v => (read v).map some

/-! ### From a text -/

/-- The complaint about a value of another type: after a scalar, before a bracket. -/
def mismatch {α : Type} (wanted : Wanted) (s : Bytes) : Except Fault α :=
  match s with
  | 0x5b :: _ => .error (.taken (.invalidType .sequence wanted) s)
  | 0x7b :: _ => .error (.taken (.invalidType .map wanted) s)
  | s =>
    match scalar s with
    | .error f => .error f
    | .ok (v, rest) => .error (.taken (.invalidType v.found wanted) rest)

/-- Reads a text. -/
def readString (s : Bytes) : Except Fault (String × Bytes) :=
  match skipBlank s with
  | 0x22 :: rest => text rest
  | rest => mismatch .string rest

/-- Reads a signed number of 64 bits. -/
def readInt64 (s : Bytes) : Except Fault (Int × Bytes) :=
  match skipBlank s with
  | [] => mismatch .int64 []
  | b :: rest =>
    if b = 0x2d || (digit? b).isSome then do
      let (n, rest) ← number (b :: rest)
      match int64Of n with
      | .ok n => pure (n, rest)
      | .error cause => .error (.taken cause rest)
    else mismatch .int64 (b :: rest)

/-- Reads a value that may be `null`. -/
def nullable {α : Type} (read : Reader α) (s : Bytes) : Except Fault (Option α × Bytes) :=
  match skipBlank s with
  | 0x6e :: rest => do
    let rest ← ident ull rest
    pure (none, rest)
  | rest => do
    let (a, rest) ← read rest
    pure (some a, rest)

/-- Reads one member of an object of texts; the last member is gathered first. -/
def textMember (done : List (String × String)) (name : String) (s : Bytes) :
    Except Fault (List (String × String) × Bytes) := do
  let s ← colon s
  let (t, s) ← readString s
  pure ((name, t) :: done, s)

/-- Reads an object of texts, in the order of its members. -/
def readTexts (s : Bytes) : Except Fault (List (String × String) × Bytes) :=
  match skipBlank s with
  | 0x7b :: rest => do
    let (gathered, rest) ← fields textMember [] rest
    pure (gathered.reverse, rest)
  | rest => mismatch .map rest

/-! ### Records -/

/-- The bytes left when an object is given up: after the brace that closes it, if that is what
comes next. -/
def givenUp (s : Bytes) : Bytes :=
  match skipBlank s with
  | 0x7d :: rest => rest
  | rest => rest

/-- A complaint about an object as a whole. -/
def giveUp {α : Type} (cause : Cause) (s : Bytes) : Except Fault α :=
  .error (.taken cause (givenUp s))

/-- What follows the last field of a record that is given as an array. -/
def endOfItems (s : Bytes) : Except Fault Bytes :=
  match skipBlank s with
  | [] => .error (.seen .endInList [])
  | 0x5d :: rest => .ok rest
  | 0x2c :: rest =>
    match skipBlank rest with
    | 0x5d :: tail => .error (.seen .trailingComma (0x5d :: tail))
    | tail => .error (.seen .trailingCharacters tail)
  | rest => .error (.seen .trailingCharacters rest)

/-- Whether another item follows in an array, `first` at its start; the bytes from that item on. -/
def nextItem (first : Bool) (s : Bytes) : Except Fault (Option Bytes) :=
  match skipBlank s with
  | [] => .error (.seen .endInList [])
  | 0x5d :: _ => .ok none
  | rest =>
    if first then .ok (some rest)
    else
      match rest with
      | 0x2c :: tail =>
        match skipBlank tail with
        | [] => .error (.seen .endInValue [])
        | 0x5d :: after => .error (.seen .trailingComma (0x5d :: after))
        | after => .ok (some after)
      | _ => .error (.seen .expectedCommaOrBracket rest)

/-- Reads the fields of a record from an array, in order, as long as there are items. -/
def itemFields {σ φ : Type} (read : σ → φ → Reader σ) :
    (first : Bool) → List φ → σ → Reader σ
  | _, [], gathered, s => .ok (gathered, s)
  | first, f :: fs, gathered, s => do
    match ← nextItem first s with
    | none => pure (gathered, s)
    | some rest =>
      let (gathered, rest) ← read gathered f rest
      itemFields read false fs gathered rest

/-- Reads a record from an object or an array.  `field` reads the value of one field, `named` one
member of the object from the byte after its name. -/
def record {σ φ : Type} (name : String) (order : List φ) (field : σ → φ → Reader σ)
    (named : σ → String → Reader σ) (start : σ) (s : Bytes) : Except Fault (σ × Bytes) :=
  match skipBlank s with
  | 0x5b :: rest => do
    let (gathered, rest) ← itemFields field true order start rest
    let rest ← endOfItems rest
    pure (gathered, rest)
  | 0x7b :: rest => fields named start rest
  | rest => mismatch (.record name) rest

end Json

end AlertRelay
