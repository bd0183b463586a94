/-
AlertRelay/Text/Utf8.lean

Texts and the bytes that spell them.

Everything that enters or leaves the relay is a list of bytes: request bodies, queue payloads,
configuration files.  Texts are `String`s, so the two meet here and nowhere else:

* `utf8 s` are the bytes of a text;
* `ofUtf8? bytes` is the text that some bytes spell, if they spell one.

The first is a section of the second (`ofUtf8?_utf8`), which is what every reader beside a writer
rests on.  A text that is not well formed is reported by the place of its first bad byte, so
`validPrefix` counts the bytes before it.  It runs the usual automaton one byte at a time; an
unfinished character at the end does not count.
-/

namespace AlertRelay

/-- Raw bytes, as they travel. -/
abbrev Bytes := List UInt8

/-- The bytes that spell a text. -/
def utf8 (s : String) : Bytes :=
  s.toByteArray.data.toList

/-- The text that some bytes spell, if they are well formed. -/
def ofUtf8? (bytes : Bytes) : Option String :=
  String.fromUTF8? ⟨bytes.toArray⟩

/-- **Spelling and reading back** loses nothing. -/
@[simp] theorem ofUtf8?_utf8 (s : String) : ofUtf8? (utf8 s) = some s := by
  have h : (⟨(utf8 s).toArray⟩ : ByteArray) = s.toByteArray := by simp [utf8]
  simp [ofUtf8?, h, String.fromUTF8?, s.isValidUTF8, String.fromUTF8]

namespace Utf8

/-! ### Where well-formed bytes end -/

/-- What the next byte of an unfinished character may be, and how many more follow it. -/
structure Pending where
  least : UInt8
  greatest : UInt8
  more : Nat

/-- Where the reader stands: between characters, or inside one. -/
abbrev Place := Option Pending

/-- A continuation byte, then `n` more. -/
def continuation (n : Nat) : Place :=
  some ⟨0x80, 0xbf, n⟩

/-- The place after the first byte of a character; `none` refuses it. -/
def first (b : UInt8) : Option Place :=
  if b < 0x80 then some none
  else if b < 0xc2 then none
  else if b < 0xe0 then some (continuation 0)
  else if b = 0xe0 then some (some ⟨0xa0, 0xbf, 1⟩)
  else if b = 0xed then some (some ⟨0x80, 0x9f, 1⟩)
  else if b < 0xf0 then some (continuation 1)
  else if b = 0xf0 then some (some ⟨0x90, 0xbf, 2⟩)
  else if b < 0xf4 then some (continuation 2)
  else if b = 0xf4 then some (some ⟨0x80, 0x8f, 2⟩)
  else none

/-- The place after one more byte; `none` refuses it. -/
def step : Place → UInt8 → Option Place
  | none, b => first b
  | some p, b =>
    if p.least ≤ b && b ≤ p.greatest then
      match p.more with
      | 0 => some none
      | n + 1 => some (continuation n)
    else none

/-- Runs the automaton; `whole` counts the bytes of finished characters, `begun` those of the one
being read. -/
def validPrefixFrom (whole begun : Nat) (place : Place) : Bytes → Nat
  | [] => whole
  | b :: rest =>
    match step place b with
    | none => whole
    | some none => validPrefixFrom (whole + begun + 1) 0 none rest
    | some (some p) => validPrefixFrom whole (begun + 1) (some p) rest

/-- How many bytes stand before the first one that is part of no character. -/
def validPrefix (bytes : Bytes) : Nat :=
  validPrefixFrom 0 0 none bytes

end Utf8

/-- The bytes of a character given by its code point; nothing for a code point that is none. -/
def utf8OfCodePoint (n : Nat) : Bytes :=
  String.utf8EncodeChar (Char.ofNat n)

end AlertRelay
