/-
AlertRelay/Proofs/Json/Grammar.lean

What a JSON text is.

The readers work on bytes and stop where they have had enough.  The grammar says the same without
a reader: which bytes are a number, which are the inside of a string, how commas and colons stand
between the parts, and which value the whole spells (`Spells`, `IsText`).

A text that nobody reads is held to less: its strings need not name characters, its numbers need
not fit, and its brackets may be open to any depth (`Formed`).  Both share the punctuation (`Items`,
`Fields`), which knows nothing of values: it is about the texts of the parts.

Blanks stand around the parts and belong to none of them, so a part begins with its first byte and
ends with its last.
-/
import AlertRelay.Proofs.Json.Token
import AlertRelay.Json.Skip

namespace AlertRelay

namespace Json

/-! ### Blanks -/

/-- Nothing but blanks. -/
def Blank (l : Bytes) : Prop :=
  ∀ b ∈ l, isBlank b = true

instance (l : Bytes) : Decidable (Blank l) :=
  inferInstanceAs (Decidable (∀ b ∈ l, _))

/-! ### Numbers -/

/-- Nothing but digits. -/
def Digits (t : Bytes) : Prop :=
  ∀ b ∈ t, (digit? b).isSome = true

/-- The whole part of a number: a zero that stands alone, or digits that begin with another one. -/
inductive WholePart : Bytes → Prop where
  | zero : WholePart [0x30]
  | digits {b : UInt8} {t : Bytes} (first : (digit? b).isSome = true) (nonzero : b ≠ 0x30)
      (rest : Digits t) : WholePart (b :: t)

/-- A point with digits after it, or nothing. -/
inductive PointPart : Bytes → Prop where
  | absent : PointPart []
  | digits {t : Bytes} (some : t ≠ []) (digits : Digits t) : PointPart (0x2e :: t)

/-- The letter of an exponent with a sign and digits after it, or nothing. -/
inductive ExponentPart : Bytes → Prop where
  | absent : ExponentPart []
  | digits {e : UInt8} {s t : Bytes} (letter : e = 0x65 ∨ e = 0x45)
      (sign : s = [] ∨ s = [0x2b] ∨ s = [0x2d]) (some : t ≠ []) (digits : Digits t) :
      ExponentPart (e :: (s ++ t))

/-- A number without its sign. -/
inductive Unsigned : Bytes → Prop where
  | mk {w p e : Bytes} (whole : WholePart w) (point : PointPart p) (exponent : ExponentPart e) :
      Unsigned (w ++ (p ++ e))

/-- The text of a number. -/
inductive IsNumber : Bytes → Prop where
  | unsigned {t : Bytes} (number : Unsigned t) : IsNumber t
  | negative {t : Bytes} (number : Unsigned t) : IsNumber (0x2d :: t)

/-! ### Strings -/

/-- Four hexadecimal digits and their value. -/
inductive FourDigits : Bytes → Nat → Prop where
  | mk {a b c d : UInt8} {i j k l : Nat} (first : Hexadecimal.byteDigit? a = some i)
      (second : Hexadecimal.byteDigit? b = some j) (third : Hexadecimal.byteDigit? c = some k)
      (fourth : Hexadecimal.byteDigit? d = some l) :
      FourDigits [a, b, c, d] (((i * 16 + j) * 16 + k) * 16 + l)

/-- A byte that stands for itself in a string. -/
def IsPlain (b : UInt8) : Prop :=
  b ≠ 0x22 ∧ b ≠ 0x5c ∧ ¬ b < 0x20

/-- The inside of a string and the bytes that it spells. -/
inductive Chars : Bytes → Bytes → Prop where
  | nil : Chars [] []
  | plain {b : UInt8} {t m : Bytes} (itself : IsPlain b) (rest : Chars t m) :
      Chars (b :: t) (b :: m)
  | short {c b : UInt8} {t m : Bytes} (letter : shortEscape? c = some b) (rest : Chars t m) :
      Chars (0x5c :: c :: t) (b :: m)
  /-- The number of a character. -/
  | code {ds t m : Bytes} {v : Nat} (digits : FourDigits ds v) (high : isHighSurrogate v = false)
      (low : isLowSurrogate v = false) (rest : Chars t m) :
      Chars (0x5c :: 0x75 :: (ds ++ t)) (utf8OfCodePoint v ++ m)
  /-- Two numbers for one character. -/
  | pair {ds ds' t m : Bytes} {v v' : Nat} (first : FourDigits ds v) (second : FourDigits ds' v')
      (high : isHighSurrogate v = true) (low : isLowSurrogate v' = true) (rest : Chars t m) :
      Chars (0x5c :: 0x75 :: (ds ++ 0x5c :: 0x75 :: (ds' ++ t)))
        (utf8OfCodePoint (joinSurrogates v v') ++ m)

/-- The inside of a string of which nobody asks what it spells. -/
inductive FormedChars : Bytes → Prop where
  | nil : FormedChars []
  | plain {b : UInt8} {t : Bytes} (itself : IsPlain b) (rest : FormedChars t) : FormedChars (b :: t)
  | short {c : UInt8} {t : Bytes} (letter : (shortEscape? c).isSome = true)
      (rest : FormedChars t) : FormedChars (0x5c :: c :: t)
  | code {ds t : Bytes} {v : Nat} (digits : FourDigits ds v) (rest : FormedChars t) :
      FormedChars (0x5c :: 0x75 :: (ds ++ t))

/-! ### Punctuation -/

/-- What follows an item: commas, each with an item after it. -/
inductive MoreItems : List Bytes → Bytes → Prop where
  | nil {l : Bytes} (before : Blank l) : MoreItems [] l
  | cons {l l' t u : Bytes} {ts : List Bytes} (before : Blank l) (after : Blank l')
      (rest : MoreItems ts u) : MoreItems (t :: ts) (l ++ 0x2c :: (l' ++ (t ++ u)))

/-- The texts of items with commas between them. -/
inductive Items : List Bytes → Bytes → Prop where
  | nil {l : Bytes} (before : Blank l) : Items [] l
  | cons {l t u : Bytes} {ts : List Bytes} (before : Blank l) (rest : MoreItems ts u) :
      Items (t :: ts) (l ++ (t ++ u))

section

variable {ν : Type} (named : ν → Bytes → Prop)

/-- A member: a name, a colon, and the text of its value. -/
inductive Field : ν × Bytes → Bytes → Prop where
  | mk {name : ν} {n l l' t : Bytes} (spelled : named name n) (before : Blank l)
      (after : Blank l') : Field (name, t) (0x22 :: (n ++ 0x22 :: (l ++ 0x3a :: (l' ++ t))))

/-- What follows a member: commas, each with a member after it. -/
inductive MoreFields : List (ν × Bytes) → Bytes → Prop where
  | nil {l : Bytes} (before : Blank l) : MoreFields [] l
  | cons {l l' t u : Bytes} {m : ν × Bytes} {ms : List (ν × Bytes)} (before : Blank l)
      (after : Blank l') (member : Field named m t) (rest : MoreFields ms u) :
      MoreFields (m :: ms) (l ++ 0x2c :: (l' ++ (t ++ u)))

/-- Members with commas between them: their names, and the texts of their values. -/
inductive Fields : List (ν × Bytes) → Bytes → Prop where
  | nil {l : Bytes} (before : Blank l) : Fields [] l
  | cons {l t u : Bytes} {m : ν × Bytes} {ms : List (ν × Bytes)} (before : Blank l)
      (member : Field named m t) (rest : MoreFields named ms u) : Fields (m :: ms) (l ++ (t ++ u))

end

/-! ### Values -/

/-- A value that holds no other. -/
inductive Scalar : Json → Bytes → Prop where
  | null : Scalar .null (0x6e :: ull)
  | isTrue : Scalar (.bool true) (0x74 :: rue)
  | isFalse : Scalar (.bool false) (0x66 :: alse)
  | string {s : String} {t : Bytes} (chars : Chars t (utf8 s)) :
      Scalar (.string s) (0x22 :: (t ++ [0x22]))
  /-- A whole number has one spelling. -/
  | integer {n : Int} (whole : IsWhole n) : Scalar (.integer n) (spelled (toString n).toList)
  /-- Any other number is the fraction that it is rounded to. -/
  | float {x : Binary64} {t : Bytes} (number : IsNumber t)
      (rounded : Json.number t = .ok (.float x, [])) : Scalar (.float x) t

/-- The inside of a string is the name of a member. -/
def Named (name : String) (n : Bytes) : Prop :=
  Chars n (utf8 name)

/-- **A value** and a text of it in which at most `depth` brackets are open at a time. -/
inductive Spells : (depth : Nat) → Json → Bytes → Prop where
  | scalar {depth : Nat} {v : Json} {t : Bytes} (scalar : Scalar v t) : Spells depth v t
  | array {depth : Nat} {ps : List (Json × Bytes)} {t : Bytes}
      (items : ∀ p ∈ ps, Spells depth p.1 p.2) (text : Items (ps.map (·.2)) t) :
      Spells (depth + 1) (.array (ps.map (·.1))) (0x5b :: (t ++ [0x5d]))
  | object {depth : Nat} {ps : List (String × Json × Bytes)} {t : Bytes}
      (members : ∀ p ∈ ps, Spells depth p.2.1 p.2.2)
      (text : Fields Named (ps.map fun p => (p.1, p.2.2)) t) :
      Spells (depth + 1) (.object (ps.map fun p => (p.1, p.2.1))) (0x7b :: (t ++ [0x7d]))

/-- A whole text of a value. -/
def IsText (v : Json) (s : Bytes) : Prop :=
  ∃ l t r, Blank l ∧ Spells maxDepth v t ∧ Blank r ∧ s = l ++ (t ++ r)

/-- **A value that nobody reads.** -/
inductive Formed : Bytes → Prop where
  | null : Formed (0x6e :: ull)
  | isTrue : Formed (0x74 :: rue)
  | isFalse : Formed (0x66 :: alse)
  | string {t : Bytes} (chars : FormedChars t) : Formed (0x22 :: (t ++ [0x22]))
  | number {t : Bytes} (number : IsNumber t) : Formed t
  | array {ts : List Bytes} {t : Bytes} (items : ∀ u ∈ ts, Formed u) (text : Items ts t) :
      Formed (0x5b :: (t ++ [0x5d]))
  | object {ms : List (Unit × Bytes)} {t : Bytes} (members : ∀ m ∈ ms, Formed m.2)
      (text : Fields (fun _ n => FormedChars n) ms t) : Formed (0x7b :: (t ++ [0x7d]))

end Json

end AlertRelay
