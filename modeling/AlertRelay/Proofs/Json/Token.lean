/-
AlertRelay/Proofs/Json/Token.lean

Strings and whole numbers, read back as they were written.

The writer goes over characters and the reader over bytes, so everything here is about the bytes
of some characters (`spelled`).  A reader takes what the writer has written from the head of a text
and leaves the rest alone, whatever the rest is:

* one character of a string, escaped or not, puts the reader's automaton back where it was, with
  the bytes of the character gathered (`stringBytes_escaped`); hence a string is read back
  (`text_escaped`);
* a whole number of 64 bits is read back if what follows cannot continue it (`number_toString`).
  The number is not over before something else begins, so this is the one place where the rest of
  the text matters (`Ends`).
-/
import AlertRelay.Json.Writer
import AlertRelay.Json.Token
import AlertRelay.Proofs.Text.ByteOrder

namespace AlertRelay

/-! ### The bytes of characters -/

/-- The bytes of some characters. -/
def spelled (cs : List Char) : Bytes :=
  cs.flatMap String.utf8EncodeChar

@[simp] theorem spelled_nil : spelled [] = [] := rfl

@[simp] theorem spelled_append (cs ds : List Char) :
    spelled (cs ++ ds) = spelled cs ++ spelled ds :=
  List.flatMap_append

theorem spelled_cons (c : Char) (cs : List Char) :
    spelled (c :: cs) = String.utf8EncodeChar c ++ spelled cs :=
  List.flatMap_cons

@[simp] theorem spelled_quote (cs : List Char) : spelled ('"' :: cs) = 0x22 :: spelled cs := rfl

@[simp] theorem spelled_comma (cs : List Char) : spelled (',' :: cs) = 0x2c :: spelled cs := rfl

@[simp] theorem spelled_minus (cs : List Char) : spelled ('-' :: cs) = 0x2d :: spelled cs := rfl

@[simp] theorem spelled_colon (cs : List Char) : spelled (':' :: cs) = 0x3a :: spelled cs := rfl

@[simp] theorem spelled_open (cs : List Char) : spelled ('\x7b' :: cs) = 0x7b :: spelled cs := rfl

@[simp] theorem spelled_close (cs : List Char) : spelled ('\x7d' :: cs) = 0x7d :: spelled cs := rfl

/-- The bytes of a text are those of its characters. -/
theorem utf8_ofList (cs : List Char) : utf8 (String.ofList cs) = spelled cs := by
  rw [utf8_eq_flatMap, String.toList_ofList, spelled]

/-- A character of the first half of a byte is spelled by one byte. -/
theorem utf8EncodeChar_of_lt {c : Char} (h : c.toNat < 0x80) :
    String.utf8EncodeChar c = [UInt8.ofNat c.toNat] := by
  have h : c.val.toNat ≤ 0x7f := Nat.le_of_lt_succ h
  simp only [String.utf8EncodeChar, if_pos h]
  rfl

/-- All other characters are spelled by greater bytes. -/
theorem le_of_mem_utf8EncodeChar {c : Char} (h : 0x80 ≤ c.toNat) {b : UInt8}
    (hb : b ∈ String.utf8EncodeChar c) : 0x80 ≤ b.toNat := by
  have h : ¬ c.val.toNat ≤ 0x7f := Nat.not_le.2 h
  have hbound : c.val.toNat < 0x110000 := by
    have := c.valid
    simp only [UInt32.isValidChar, Nat.isValidChar] at this
    omega
  simp only [String.utf8EncodeChar, if_neg h] at hb
  -- one case for each length of the spelling
  split_ifs at hb <;>
    simp only [List.mem_cons, List.not_mem_nil, or_false, ← UInt8.toNat_inj,
      UInt8.toNat_ofNat'] at hb <;>
    omega

namespace Json

/-! ### Strings -/

/-- Bytes that stand for themselves inside a string. -/
theorem stringBytes_plain (done : Bytes) {bs : Bytes}
    (h : ∀ b ∈ bs, b ≠ 0x22 ∧ b ≠ 0x5c ∧ ¬ b < 0x20) (rest : Bytes) :
    stringBytes done .plain (bs ++ rest) = stringBytes (bs.reverse ++ done) .plain rest := by
  induction bs generalizing done with
  | nil => rfl
  | cons b bs ih =>
    obtain ⟨hquote, hslash, hcontrol⟩ := h b List.mem_cons_self
    have hrest := ih (b :: done) fun x hx => h x (List.mem_cons_of_mem _ hx)
    rw [List.cons_append, stringBytes]
    simp only [hquote, hslash, hcontrol, StringState.step]
    simpa using hrest

/-- The bytes of a character that is written as it is stand for themselves. -/
theorem plain_of_mem_utf8EncodeChar {c : Char} (hquote : c ≠ '"') (hslash : c ≠ '\\')
    (hcontrol : ¬ c.toNat < 0x20) {b : UInt8} (hb : b ∈ String.utf8EncodeChar c) :
    b ≠ 0x22 ∧ b ≠ 0x5c ∧ ¬ b < 0x20 := by
  have hq : c.toNat ≠ 0x22 := fun he => hquote (Char.toNat_inj.1 he)
  have hs : c.toNat ≠ 0x5c := fun he => hslash (Char.toNat_inj.1 he)
  simp only [ne_eq, ← UInt8.toNat_inj, UInt8.lt_iff_toNat_lt, UInt8.reduceToNat]
  by_cases h : c.toNat < 0x80
  · rw [utf8EncodeChar_of_lt h, List.mem_singleton] at hb
    have hb : b.toNat = c.toNat := by
      rw [hb, UInt8.toNat_ofNat', Nat.mod_eq_of_lt (by omega)]
    omega
  · have := le_of_mem_utf8EncodeChar (Nat.le_of_not_lt h) hb
    omega

/-- A hexadecimal digit is one byte, which is read as the digit. -/
theorem byteDigit?_digitChar :
    ∀ d < 16, String.utf8EncodeChar (Nat.digitChar d) = [UInt8.ofNat (Nat.digitChar d).toNat] ∧
      Hexadecimal.byteDigit? (UInt8.ofNat (Nat.digitChar d).toNat) = some d := by
  decide

/-- A control character is written by four digits and read back. -/
theorem stringBytes_fourDigits (done : Bytes) {c : Char} (h : c.toNat < 0x20) (rest : Bytes) :
    stringBytes done .plain (spelled ('\\' :: 'u' :: fourDigits c.toNat) ++ rest) =
      stringBytes ((String.utf8EncodeChar c).reverse ++ done) .plain rest := by
  obtain ⟨hb₁, hd₁⟩ := byteDigit?_digitChar (c.toNat / 16) (by omega)
  obtain ⟨hb₀, hd₀⟩ := byteDigit?_digitChar (c.toNat % 16) (by omega)
  generalize UInt8.ofNat (Nat.digitChar (c.toNat / 16)).toNat = b₁ at hb₁ hd₁
  generalize UInt8.ofNat (Nat.digitChar (c.toNat % 16)).toNat = b₀ at hb₀ hd₀
  have hspelled : spelled ('\\' :: 'u' :: fourDigits c.toNat) =
      [0x5c, 0x75, 0x30, 0x30, b₁, b₀] := by
    have hfirst : spelled ['\\', 'u', '0', '0'] = [0x5c, 0x75, 0x30, 0x30] := by decide
    show spelled (['\\', 'u', '0', '0'] ++ [_, _]) = _
    rw [spelled_append, hfirst, spelled_cons, spelled_cons, hb₁, hb₀]
    rfl
  have hzero : Hexadecimal.byteDigit? 0x30 = some 0 := by decide
  have hvalue : c.toNat / 16 * 16 + c.toNat % 16 = c.toNat := Nat.div_add_mod' _ _
  -- a control character is no surrogate
  have hlow : isLowSurrogate c.toNat = false := by
    simp [isLowSurrogate]
    omega
  have hhigh : isHighSurrogate c.toNat = false := by
    simp [isHighSurrogate]
    omega
  rw [hspelled]
  simp [stringBytes, StringState.step, hzero, hd₁, hd₀, hvalue, hlow, hhigh, utf8OfCodePoint,
    Char.ofNat_toNat]

/-- **One character** of a string is read back, escaped or not. -/
theorem stringBytes_escaped (done : Bytes) (c : Char) (rest : Bytes) :
    stringBytes done .plain (spelled (escaped c) ++ rest) =
      stringBytes ((String.utf8EncodeChar c).reverse ++ done) .plain rest := by
  -- the seven characters that are escaped by a letter
  have hletter : ∀ (letter : Char) (b : UInt8), spelled ['\\', letter] = [0x5c, b] →
      b ≠ 0x75 → String.utf8EncodeChar c = (shortEscape? b).toList →
      stringBytes done .plain (spelled ['\\', letter] ++ rest) =
        stringBytes ((String.utf8EncodeChar c).reverse ++ done) .plain rest := by
    intro letter b hspelled hb hc
    rw [hspelled, hc]
    cases hs : shortEscape? b with
    | none =>
      rw [hs] at hc
      exact absurd hc String.utf8EncodeChar_ne_nil
    | some x => simp [stringBytes, StringState.step, hb, hs]
  unfold escaped
  split_ifs with hquote hslash hfeed hreturn htab hback hform hcontrol
  · exact hletter '"' 0x22 (by decide) (by decide) (by rw [hquote]; decide)
  · exact hletter '\\' 0x5c (by decide) (by decide) (by rw [hslash]; decide)
  · exact hletter 'n' 0x6e (by decide) (by decide) (by rw [hfeed]; decide)
  · exact hletter 'r' 0x72 (by decide) (by decide) (by rw [hreturn]; decide)
  · exact hletter 't' 0x74 (by decide) (by decide) (by rw [htab]; decide)
  · exact hletter 'b' 0x62 (by decide) (by decide) (by rw [hback]; decide)
  · exact hletter 'f' 0x66 (by decide) (by decide) (by rw [hform]; decide)
  · exact stringBytes_fourDigits done hcontrol rest
  · rw [spelled_cons, spelled_nil, List.append_nil]
    refine stringBytes_plain done ?_ rest
    exact fun b hb => plain_of_mem_utf8EncodeChar hquote hslash hcontrol hb

theorem stringBytes_flatMap (done : Bytes) (cs : List Char) (rest : Bytes) :
    stringBytes done .plain (spelled (cs.flatMap escaped) ++ 0x22 :: rest) =
      .ok (done.reverse ++ spelled cs, rest) := by
  induction cs generalizing done with
  | nil => simp [stringBytes]
  | cons c cs ih =>
    rw [List.flatMap_cons, spelled_append, List.append_assoc, stringBytes_escaped, ih, spelled_cons]
    simp

/-- **A string** is read back, whatever follows it. -/
theorem text_escaped (s : String) (rest : Bytes) :
    text (spelled (s.toList.flatMap escaped) ++ 0x22 :: rest) = .ok (s, rest) := by
  have hs : spelled s.toList = utf8 s := (utf8_eq_flatMap s).symm
  rw [text, stringBytes_flatMap]
  simp [hs]

/-! ### Whole numbers -/

/-- Nothing that could continue a number comes next. -/
def Ends : Bytes → Prop
  | [] => True
  | b :: _ => digit? b = none ∧ b ≠ 0x2e ∧ b ≠ 0x65 ∧ b ≠ 0x45

theorem Ends.startsWithDigit {rest : Bytes} (h : Ends rest) : startsWithDigit rest = false := by
  cases rest with
  | nil => rfl
  | cons b rest => simp [Json.startsWithDigit, h.1]

/-- A digit is one byte, which is read as the digit. -/
theorem digit?_of_isDigit {c : Char} (h : c.isDigit = true) :
    String.utf8EncodeChar c = [UInt8.ofNat c.toNat] ∧
      digit? (UInt8.ofNat c.toNat) = some (c.toNat - '0'.toNat) := by
  obtain ⟨hle, hge⟩ := Char.isDigit_iff_toNat.1 h
  simp only [Char.reduceToNat] at hle hge
  have hbyte : (UInt8.ofNat c.toNat).toNat = c.toNat := by
    rw [UInt8.toNat_ofNat', Nat.mod_eq_of_lt (by omega)]
  refine ⟨utf8EncodeChar_of_lt (by omega), ?_⟩
  simp [digit?, UInt8.le_iff_toNat_le, hbyte, hle, hge]

theorem le_ofDigitChars (cs : List Char) (n : Nat) : n ≤ Nat.ofDigitChars 10 cs n := by
  induction cs generalizing n with
  | nil => exact Nat.le_refl n
  | cons c cs ih =>
    rw [Nat.ofDigitChars_cons]
    exact Nat.le_trans (by omega) (ih _)

/-- **Digits** are taken to the last, if the number they spell fits. -/
theorem takeDigits_spelled {cs : List Char} (hcs : ∀ c ∈ cs, c.isDigit = true) {n : Nat}
    (hn : Nat.ofDigitChars 10 cs n < wordSize) (count : Nat) {rest : Bytes} (hrest : Ends rest) :
    takeDigits n count (spelled cs ++ rest) =
      (Nat.ofDigitChars 10 cs n, count + cs.length, rest) := by
  induction cs generalizing n count with
  | nil =>
    cases rest with
    | nil => rfl
    | cons b rest => simp [takeDigits, hrest.1]
  | cons c cs ih =>
    obtain ⟨hbyte, hdigit⟩ := digit?_of_isDigit (hcs c List.mem_cons_self)
    rw [Nat.ofDigitChars_cons, Nat.mul_comm] at hn ⊢
    -- more digits make the number greater, so it fits with fewer of them
    have hlt : n * 10 + (c.toNat - '0'.toNat) < wordSize :=
      Nat.lt_of_le_of_lt (le_ofDigitChars cs _) hn
    have htail := ih (fun x hx => hcs x (List.mem_cons_of_mem _ hx)) hn (count + 1)
    rw [spelled_cons, hbyte, List.cons_append, List.nil_append, List.cons_append, takeDigits]
    simp only [hdigit, hlt, if_true, htail, List.length_cons]
    rw [Nat.add_assoc, Nat.add_comm 1]

/-- The digits of a number that is not zero do not begin with one. -/
theorem toDigits_eq_cons {n : Nat} (hn : 0 < n) :
    ∃ c cs, Nat.toDigits 10 n = c :: cs ∧ c ≠ '0' := by
  induction n using Nat.strong_induction_on with
  | _ n ih =>
    by_cases hlt : n < 10
    · refine ⟨_, _, Nat.toDigits_of_lt_base hlt, ?_⟩
      have hdigits : ∀ d < 10, 0 < d → Nat.digitChar d ≠ '0' := by decide
      exact hdigits n hlt hn
    · obtain ⟨c, cs, hcs, hc⟩ := ih (n / 10) (by omega) (by omega)
      refine ⟨c, cs ++ [Nat.digitChar (n % 10)], ?_, hc⟩
      rw [Nat.toDigits_of_base_le (by omega) (by omega), hcs, List.cons_append]

/-- **The digits of a number** are read as its whole part. -/
theorem unsigned_toDigits (negative : Bool) {n : Nat} (hn : n < wordSize) {rest : Bytes}
    (hrest : Ends rest) :
    unsigned negative (spelled (Nat.toDigits 10 n) ++ rest) = afterWhole negative n rest := by
  rcases Nat.eq_zero_or_pos n with rfl | hpos
  · -- zero is the one number that may begin with its digit, and the digit stands alone
    have hspelled : spelled (Nat.toDigits 10 0) = [0x30] := by decide
    have hzero : digit? 0x30 = some 0 := by decide
    rw [hspelled, List.cons_append, List.nil_append, unsigned]
    simp [hzero, hrest.startsWithDigit]
  · obtain ⟨c, cs, hcs, hc⟩ := toDigits_eq_cons hpos
    have hdigits : ∀ x ∈ c :: cs, x.isDigit = true := fun x hx =>
      Nat.isDigit_of_mem_toDigits (by omega) (Nat.le_refl 10) (hcs ▸ hx)
    have hvalue : Nat.ofDigitChars 10 cs (c.toNat - '0'.toNat) = n := by
      have := Nat.ofDigitChars_ten_toDigits (n := n)
      rw [hcs, Nat.ofDigitChars_cons] at this
      simpa using this
    obtain ⟨hbyte, hdigit⟩ := digit?_of_isDigit (hdigits c List.mem_cons_self)
    have htake := takeDigits_spelled (fun x hx => hdigits x (List.mem_cons_of_mem _ hx))
      (hvalue ▸ hn) 1 hrest
    rw [hvalue] at htake
    -- the first digit is not zero, so the digits after it are taken
    have hfirst : c.toNat - '0'.toNat ≠ 0 := by
      have hle := (Char.isDigit_iff_toNat.1 (hdigits c List.mem_cons_self)).1
      have hne : c.toNat ≠ '0'.toNat := fun he => hc (Char.toNat_inj.1 he)
      omega
    rw [hcs, spelled_cons, hbyte, List.cons_append, List.nil_append, List.cons_append, unsigned]
    generalize c.toNat - '0'.toNat = d at hdigit hfirst htake
    cases d with
    | zero => exact absurd rfl hfirst
    | succ d => simp [hdigit, htake, hrest.startsWithDigit]

theorem Ends.exponentLetter? {rest : Bytes} (h : Ends rest) : exponentLetter? rest = none := by
  unfold Json.exponentLetter?
  split
  · exact absurd rfl h.2.2.1
  · exact absurd rfl h.2.2.2
  · rfl

/-- A whole number is over when something else begins. -/
theorem afterWhole_of_ends (negative : Bool) (n : Nat) {rest : Bytes} (hrest : Ends rest) :
    afterWhole negative n rest =
      if !negative then .ok (.integer n, rest)
      else if n = 0 || Nat.pow 2 63 < n then .ok (.float (.ofNat true n), rest)
      else .ok (.integer (-n), rest) := by
  unfold afterWhole
  split
  · exact absurd rfl hrest.2.1
  · simp only [hrest.exponentLetter?]

/-- The whole numbers that a reader does not take for fractions. -/
def IsWhole (n : Int) : Prop :=
  -(Nat.pow 2 63 : Nat) ≤ n ∧ n < wordSize

/-- The text of a number begins with a digit. -/
theorem spelled_toDigits_eq_cons (n : Nat) :
    ∃ b bs, spelled (Nat.toDigits 10 n) = b :: bs ∧ (digit? b).isSome = true := by
  obtain ⟨c, cs, hcs⟩ := List.exists_cons_of_ne_nil (Nat.toDigits_ne_nil (n := n) (b := 10))
  have hc : c.isDigit = true :=
    Nat.isDigit_of_mem_toDigits (by omega) (Nat.le_refl 10) (hcs ▸ List.mem_cons_self)
  obtain ⟨hbyte, hdigit⟩ := digit?_of_isDigit hc
  refine ⟨UInt8.ofNat c.toNat, spelled cs, ?_, ?_⟩
  · rw [hcs, spelled_cons, hbyte, List.cons_append, List.nil_append]
  · rw [hdigit]
    rfl

theorem toList_toString_natCast (m : Nat) : (toString (m : Int)).toList = Nat.toDigits 10 m := by
  show (m : Int).repr.toList = _
  rw [Int.repr_eq_if, if_pos (Int.natCast_nonneg m), Int.toNat_natCast, Nat.repr_eq_ofList_toDigits,
    String.toList_ofList]

theorem toList_toString_neg {m : Nat} (hm : 0 < m) :
    (toString (-m : Int)).toList = '-' :: Nat.toDigits 10 m := by
  show (-m : Int).repr.toList = _
  rw [Int.repr_eq_if, if_neg (by omega), Int.neg_neg, Int.toNat_natCast,
    Nat.repr_eq_ofList_toDigits, String.toList_append, String.toList_ofList, String.toList_ofList,
    List.cons_append, List.nil_append]

/-- The text of a whole number begins with a minus or a digit. -/
theorem spelled_toString_eq_cons (n : Int) :
    ∃ b bs, spelled (toString n).toList = b :: bs ∧ (b = 0x2d ∨ (digit? b).isSome = true) := by
  rcases Int.eq_nat_or_neg n with ⟨m, rfl | rfl⟩
  · obtain ⟨b, bs, hb, hdigit⟩ := spelled_toDigits_eq_cons m
    exact ⟨b, bs, by rw [toList_toString_natCast, hb], .inr hdigit⟩
  · rcases Nat.eq_zero_or_pos m with rfl | hm
    · exact ⟨0x30, [], by decide, .inr (by decide)⟩
    · exact ⟨0x2d, _, by rw [toList_toString_neg hm, spelled_minus], .inl rfl⟩

/-- **A whole number** is read back, if what follows cannot continue it. -/
theorem number_toString {n : Int} (hn : IsWhole n) {rest : Bytes} (hrest : Ends rest) :
    number (spelled (toString n).toList ++ rest) = .ok (.integer n, rest) := by
  obtain ⟨hleast, hgreatest⟩ := hn
  have hword : wordSize = 2 * Nat.pow 2 63 := by decide
  rcases Int.lt_or_le n 0 with hneg | hpos
  · obtain ⟨m, rfl⟩ : ∃ m : Nat, n = -m := ⟨(-n).toNat, by omega⟩
    have hsmall : ¬ (m = 0 ∨ Nat.pow 2 63 < m) := by omega
    rw [toList_toString_neg (by omega), spelled_minus]
    show unsigned true (spelled (Nat.toDigits 10 m) ++ rest) = _
    rw [unsigned_toDigits true (by omega) hrest, afterWhole_of_ends true m hrest]
    simp only [Bool.not_true, Bool.false_eq_true, if_false, ← Bool.decide_or, decide_eq_true_eq,
      hsmall]
  · obtain ⟨m, rfl⟩ := Int.eq_ofNat_of_zero_le hpos
    obtain ⟨b, bs, hb, hdigit⟩ := spelled_toDigits_eq_cons m
    have hread := unsigned_toDigits false (n := m) (by omega) hrest
    rw [afterWhole_of_ends false m hrest] at hread
    rw [toList_toString_natCast]
    unfold number
    split
    · -- a digit is no minus
      rename_i tail he
      rw [hb] at he
      rw [(List.cons.inj he).1] at hdigit
      cases hdigit
    · exact hread

end Json

end AlertRelay
