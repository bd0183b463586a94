/-
AlertRelay/Json/Token.lean

The parts of a JSON text that hold no other value: blanks, literal names, numbers and strings.

Strings are read one byte at a time by an automaton whose state (`StringState`) says how much of
an escape has been seen.  So the reader is a structural recursion over the bytes, and the bytes of
the text are checked to be well formed once, at the closing quote.

Numbers keep at most as many leading digits as fit in 64 bits; the digits after those are counted
as a power of ten before the point and dropped after it.
-/
import AlertRelay.Json.Fault
import AlertRelay.Number.Hexadecimal

namespace AlertRelay

namespace Json

/-! ### Blanks and names -/

/-- A space, a tab, a line feed or a carriage return. -/
def isBlank (b : UInt8) : Bool :=
  b = 0x20 || b = 0x09 || b = 0x0a || b = 0x0d

/-- The bytes from the first that is no blank. -/
def skipBlank : Bytes → Bytes
  | [] => []
  | b :: rest => if isBlank b then skipBlank rest else b :: rest

/-- Reads the rest of a literal name. -/
def ident : Bytes → Bytes → Except Fault Bytes
  | [], rest => .ok rest
  | _ :: _, [] => .error (.taken .endInValue [])
  | w :: word, b :: rest => if b = w then ident word rest else .error (.taken .expectedIdent rest)

/-- What follows the first letter of `null`. -/
def ull : Bytes := [0x75, 0x6c, 0x6c]

/-- What follows the first letter of `true`. -/
def rue : Bytes := [0x72, 0x75, 0x65]

/-- What follows the first letter of `false`. -/
def alse : Bytes := [0x61, 0x6c, 0x73, 0x65]

/-! ### Numbers -/

/-- A number as it is spelled. -/
inductive Number where
  | integer (n : Int)
  | float (x : Binary64)
deriving DecidableEq, Repr

/-- The value of a decimal digit. -/
def digit? (b : UInt8) : Option Nat :=
  if 0x30 ≤ b && b ≤ 0x39 then some (b.toNat - 0x30) else none

/-- One more than the greatest number of 64 bits. -/
def wordSize : Nat := Nat.pow 2 64

/-- Takes digits as long as the number stays below `wordSize`; also counts them. -/
def takeDigits (n count : Nat) : Bytes → Nat × Nat × Bytes
  | [] => (n, count, [])
  | b :: rest =>
    match digit? b with
    | none => (n, count, b :: rest)
    | some d =>
      if n * 10 + d < wordSize then takeDigits (n * 10 + d) (count + 1) rest
      else (n, count, b :: rest)

/-- Drops digits, counting them. -/
def dropDigits (count : Nat) : Bytes → Nat × Bytes
  | [] => (count, [])
  | b :: rest =>
    match digit? b with
    | none => (count, b :: rest)
    | some _ => dropDigits (count + 1) rest

/-- Whether a digit comes next. -/
def startsWithDigit : Bytes → Bool
  | [] => false
  | b :: _ => (digit? b).isSome

/-- The value `n * 10 ^ e`. -/
def fraction (negative : Bool) (n : Nat) (e : Int) (rest : Bytes) : Except Fault (Number × Bytes) :=
  match Binary64.ofScientific? negative n e with
  | none => .error (.taken .numberOutOfRange rest)
  | some x => .ok (.float x, rest)

/-- The greatest exponent that is taken for a number. -/
def greatestExponent : Nat := Nat.pow 2 31 - 1

/-- The digits of an exponent after the first.  An exponent that outgrows `greatestExponent` is out
of range at once, unless it cannot matter: then the value is zero. -/
def exponentDigits (negative down : Bool) (n : Nat) (e : Int) (exp : Nat) : Reader Number
  | [] => fraction negative n (if down then e - exp else e + exp) []
  | b :: rest =>
    match digit? b with
    | none => fraction negative n (if down then e - exp else e + exp) (b :: rest)
    | some d =>
      if exp * 10 + d ≤ greatestExponent then exponentDigits negative down n e (exp * 10 + d) rest
      else if n ≠ 0 && !down then .error (.taken .numberOutOfRange rest)
      else .ok (.float (.zero negative), (dropDigits 0 rest).2)

/-- What follows the sign of an exponent. -/
def exponentTail (negative down : Bool) (n : Nat) (e : Int) : Reader Number
  | [] => .error (.taken .endInValue [])
  | b :: rest =>
    match digit? b with
    | none => .error (.taken .invalidNumber rest)
    | some d => exponentDigits negative down n e d rest

/-- What follows the letter of an exponent. -/
def exponentPart (negative : Bool) (n : Nat) (e : Int) : Reader Number
  | 0x2b :: rest => exponentTail negative false n e rest
  | 0x2d :: rest => exponentTail negative true n e rest
  | rest => exponentTail negative false n e rest

/-- Whether the letter of an exponent comes next; what follows it. -/
def exponentLetter? : Bytes → Option Bytes
  | 0x65 :: rest => some rest
  | 0x45 :: rest => some rest
  | _ => none

/-- What follows the digits `n * 10 ^ e`: an exponent or the end of the number. -/
def afterDigits (negative : Bool) (n : Nat) (e : Int) (rest : Bytes) :
    Except Fault (Number × Bytes) :=
  match exponentLetter? rest with
  | some tail => exponentPart negative n e tail
  | none => fraction negative n e rest

/-- What follows the point. -/
def decimals (negative : Bool) (n : Nat) (e : Int) (rest : Bytes) : Except Fault (Number × Bytes) :=
  let (n, count, tail) := takeDigits n 0 rest
  if startsWithDigit tail then afterDigits negative n (e - count) (dropDigits 0 tail).2
  else if count = 0 then
    match tail with
    | [] => .error (.taken .endInValue [])
    | _ => .error (.seen .invalidNumber tail)
  else afterDigits negative n (e - count) tail

/-- What follows the whole part `n`, when all of it was taken. -/
def afterWhole (negative : Bool) (n : Nat) (rest : Bytes) : Except Fault (Number × Bytes) :=
  match rest with
  | 0x2e :: tail => decimals negative n 0 tail
  | _ =>
    match exponentLetter? rest with
    | some tail => exponentPart negative n 0 tail
    | none =>
      if !negative then .ok (.integer n, rest)
      else if n = 0 || Nat.pow 2 63 < n then .ok (.float (.ofNat true n), rest)
      else .ok (.integer (-n), rest)

/-- A number without its sign. -/
def unsigned (negative : Bool) : Reader Number
  | [] => .error (.taken .endInValue [])
  | b :: rest =>
    match digit? b with
    | none => .error (.taken .invalidNumber rest)
    | some 0 =>
      if startsWithDigit rest then .error (.seen .invalidNumber rest)
      else afterWhole negative 0 rest
    | some d =>
      let (n, _, tail) := takeDigits d 1 rest
      if startsWithDigit tail then
        let (more, tail) := dropDigits 0 tail
        match tail with
        | 0x2e :: after => decimals negative n more after
        | _ => afterDigits negative n more tail
      else afterWhole negative n tail

/-- A number, from its sign or first digit on. -/
def number : Reader Number
  | 0x2d :: rest => unsigned true rest
  | rest => unsigned false rest

/-! ### Strings -/

/-- How much of an escape has been read. -/
inductive StringState where
  /-- Nothing. -/
  | plain
  /-- The backslash. -/
  | escape
  /-- The letter, the high surrogate before it if any, and how many digits with their value; the
  value is `none` once a digit was none. -/
  | hex (high : Option Nat) (count : Nat) (value : Option Nat)
  /-- A high surrogate, which has to be followed by another escape. -/
  | paired (high : Nat)
  /-- A high surrogate and a backslash. -/
  | pairedEscape (high : Nat)
deriving DecidableEq, Repr

/-- The byte that a one-letter escape stands for. -/
def shortEscape? (b : UInt8) : Option UInt8 :=
  if b = 0x22 || b = 0x5c || b = 0x2f then some b
  else if b = 0x62 then some 0x08
  else if b = 0x66 then some 0x0c
  else if b = 0x6e then some 0x0a
  else if b = 0x72 then some 0x0d
  else if b = 0x74 then some 0x09
  else none

/-- A number of the range of high surrogates. -/
def isHighSurrogate (n : Nat) : Bool := 0xd800 ≤ n && n ≤ 0xdbff

/-- A number of the range of low surrogates. -/
def isLowSurrogate (n : Nat) : Bool := 0xdc00 ≤ n && n ≤ 0xdfff

/-- The code point that two surrogates spell. -/
def joinSurrogates (high low : Nat) : Nat :=
  (high - 0xd800) * 0x400 + (low - 0xdc00) + 0x10000

/-- What one byte does inside a string: the next state and the bytes that it adds, or a cause. -/
def StringState.step (b : UInt8) : StringState → Except Cause (StringState × Bytes)
  | .plain =>
    if b = 0x5c then .ok (.escape, [])
    else if b < 0x20 then .error .controlCharacter
    else .ok (.plain, [b])
  | .escape =>
    if b = 0x75 then .ok (.hex none 0 (some 0), [])
    else match shortEscape? b with
      | some c => .ok (.plain, [c])
      | none => .error .invalidEscape
  | .hex high count value =>
    let value := match value, Hexadecimal.byteDigit? b with
      | some v, some d => some (v * 16 + d)
      | _, _ => none
    if count < 3 then .ok (.hex high (count + 1) value, [])
    else match value, high with
      | none, _ => .error .invalidEscape
      | some v, none =>
        if isLowSurrogate v then .error .loneSurrogate
        else if isHighSurrogate v then .ok (.paired v, [])
        else .ok (.plain, utf8OfCodePoint v)
      | some v, some h =>
        if isLowSurrogate v then .ok (.plain, utf8OfCodePoint (joinSurrogates h v))
        else .error .loneSurrogate
  | .paired high =>
    if b = 0x5c then .ok (.pairedEscape high, []) else .error .unfinishedSurrogate
  | .pairedEscape high =>
    if b = 0x75 then .ok (.hex (some high) 0 (some 0), []) else .error .unfinishedSurrogate

/-- The bytes of a string up to its closing quote; `done` holds those read, last first. -/
def stringBytes (done : Bytes) : StringState → Reader Bytes
  | _, [] => .error (.taken .endInString [])
  | state, b :: rest =>
    if state = .plain && b = 0x22 then .ok (done.reverse, rest)
    else
      match state.step b with
      | .error cause => .error (.taken cause rest)
      | .ok (next, bytes) => stringBytes (bytes.reverse ++ done) next rest

/-- A string, from the byte after its opening quote.  Ill-formed bytes are reported as far before
the end as there are bytes from the first bad one. -/
def text (rest : Bytes) : Except Fault (String × Bytes) :=
  match stringBytes [] .plain rest with
  | .error f => .error f
  | .ok (bytes, rest) =>
    match ofUtf8? bytes with
    | some s => .ok (s, rest)
    | none => .error ⟨.invalidUnicode, rest.length + (bytes.length - Utf8.validPrefix bytes)⟩

end Json

end AlertRelay
