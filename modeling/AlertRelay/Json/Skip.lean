/-
AlertRelay/Json/Skip.lean

Passing over a value that nobody asked for.

A record read from a text skips the members it does not know.  Skipping checks the shape of the
value and nothing else: strings need not be well formed, numbers may be of any size, brackets may
be open to any depth.  The open brackets are kept in a list, so the function is one loop with two
modes: before a value and after one.
-/
import AlertRelay.Json.Reader

namespace AlertRelay

namespace Json

/-! ### Numbers and strings -/

/-- What follows the letter of an exponent. -/
def skipExponent (rest : Bytes) : Except Fault Bytes :=
  let rest := match rest with
    | 0x2b :: tail => tail
    | 0x2d :: tail => tail
    | tail => tail
  match rest with
  | [] => .error (.taken .invalidNumber [])
  | b :: tail =>
    if (digit? b).isSome then .ok (dropDigits 0 tail).2 else .error (.taken .invalidNumber tail)

/-- What follows the whole part of a number. -/
def skipFraction (rest : Bytes) : Except Fault Bytes :=
  match rest with
  | 0x2e :: tail =>
    if startsWithDigit tail then
      let tail := (dropDigits 0 tail).2
      match exponentLetter? tail with
      | some after => skipExponent after
      | none => .ok tail
    else .error (.seen .invalidNumber tail)
  | _ =>
    match exponentLetter? rest with
    | some after => skipExponent after
    | none => .ok rest

/-- A number without its sign. -/
def skipUnsigned : Bytes → Except Fault Bytes
  | [] => .error (.taken .invalidNumber [])
  | b :: rest =>
    match digit? b with
    | none => .error (.taken .invalidNumber rest)
    | some 0 =>
      if startsWithDigit rest then .error (.seen .invalidNumber rest) else skipFraction rest
    | some _ => skipFraction (dropDigits 0 rest).2

/-- How much of an escape has been passed. -/
inductive SkipState where
  | plain
  | escape
  | hex (count : Nat) (good : Bool)
deriving DecidableEq, Repr

/-- A string from the byte after its opening quote.  A control character is reported before it. -/
def skipString : SkipState → Bytes → Except Fault Bytes
  | _, [] => .error (.taken .endInString [])
  | .plain, b :: rest =>
    if b = 0x22 then .ok rest
    else if b = 0x5c then skipString .escape rest
    else if b < 0x20 then .error (.taken .controlCharacter (b :: rest))
    else skipString .plain rest
  | .escape, b :: rest =>
    if b = 0x75 then skipString (.hex 0 true) rest
    else if (shortEscape? b).isSome then skipString .plain rest
    else .error (.taken .invalidEscape rest)
  | .hex count good, b :: rest =>
    let good := good && (Hexadecimal.byteDigit? b).isSome
    if count < 3 then skipString (.hex (count + 1) good) rest
    else if good then skipString .plain rest
    else .error (.taken .invalidEscape rest)

/-! ### Values -/

/-- A bracket that is open. -/
inductive Bracket where
  | list
  | object
deriving DecidableEq, Repr

/-- The name of a member and its colon. -/
def skipName (s : Bytes) : Except Fault Bytes :=
  match skipBlank s with
  | [] => .error (.seen .endInObject [])
  | 0x22 :: rest => do
    let rest ← skipString .plain rest
    colon rest
  | rest => .error (.seen .keyMustBeString rest)

/-- A value that holds no other, from its first byte. -/
def skipScalar : Bytes → Except Fault Bytes
  | [] => .error (.seen .endInValue [])
  | b :: rest =>
    if b = 0x6e then ident ull rest
    else if b = 0x74 then ident rue rest
    else if b = 0x66 then ident alse rest
    else if b = 0x22 then skipString .plain rest
    else if b = 0x2d then skipUnsigned rest
    else if (digit? b).isSome then skipUnsigned (b :: rest)
    else .error (.seen .expectedValue (b :: rest))

/-- Passes values and closing brackets until no bracket is open; `before` says that a value comes
next. -/
def skipWithin : (fuel : Nat) → (before : Bool) → List Bracket → Bytes → Except Fault Bytes
  | 0, _, _, s => .error (.taken .endInValue s)
  | _ + 1, false, [], s => .ok s
  | fuel + 1, false, bracket :: outer, s =>
    match bracket, skipBlank s with
    | .list, [] => .error (.seen .endInList [])
    | .object, [] => .error (.seen .endInObject [])
    | .list, 0x5d :: rest => skipWithin fuel false outer rest
    | .object, 0x7d :: rest => skipWithin fuel false outer rest
    | .list, 0x2c :: rest => skipWithin fuel true (.list :: outer) rest
    | .object, 0x2c :: rest => do
      let rest ← skipName rest
      skipWithin fuel true (.object :: outer) rest
    | .list, rest => .error (.seen .expectedCommaOrBracket rest)
    | .object, rest => .error (.seen .expectedCommaOrBrace rest)
  | fuel + 1, true, outer, s =>
    match skipBlank s with
    | 0x5b :: rest =>
      match skipBlank rest with
      | [] => .error (.seen .endInList [])
      | 0x5d :: tail => skipWithin fuel false outer tail
      | tail => skipWithin fuel true (.list :: outer) tail
    | 0x7b :: rest =>
      match skipBlank rest with
      | [] => .error (.seen .endInObject [])
      | 0x7d :: tail => skipWithin fuel false outer tail
      | tail => do
        let tail ← skipName tail
        skipWithin fuel true (.object :: outer) tail
    | rest => do
      let rest ← skipScalar rest
      skipWithin fuel false outer rest

/-- The bytes after the value at the head. -/
def skip (s : Bytes) : Except Fault Bytes :=
  skipWithin (2 * s.length + 2) true [] s

end Json

end AlertRelay
