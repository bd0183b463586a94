/-
AlertRelay/Proofs/Toml/Text.lean

Texts of a TOML document, read back as they were written.

The writer chooses one of four kinds for a text, and what a reader has to undo depends on the kind:

* within a line, a text with escapes is read one character at a time (`basic_escapedChars`), and
  one without escapes holds no quote at all (`literal_plain`);
* between three quotes, one or two quotes may stand in a row, and whether they belong to the text
  shows only further on.  So the induction goes over the characters that are left and keeps the
  quotes before them unread: either something else follows, and they are part of the text, or the
  closing quotes do, and the reader counts them all (`basicLines_escapedChars`,
  `literalLines_raw`).

A kind is chosen only for texts that it can hold (`holds_styleOf`).  A line break after the opening
quotes is dropped, so the writer puts one there for a text with line breaks, which may begin with
one; a text without any does not begin with one.
-/
import AlertRelay.Toml.Writer
import Mathlib.Tactic.SplitIfs

namespace AlertRelay

namespace Toml

/-! ### Characters -/

theorem isPlain_of_needsCode {c : Char} (hcode : needsCode c = false) (hbreak : c ≠ '\n') :
    isPlain c = true := by
  by_cases htab : c = '\t'
  · simp [isPlain, htab]
  · simp only [needsCode, htab, hbreak, ne_eq, not_false_eq_true, decide_true, Bool.and_true,
      Bool.or_eq_false_iff, decide_eq_false_iff_not, Nat.not_lt] at hcode
    simp [isPlain, hcode]

theorem lt_of_needsCode {c : Char} (hcode : needsCode c = true) : c.toNat < 256 := by
  simp only [needsCode, Bool.or_eq_true, Bool.and_eq_true, decide_eq_true_eq] at hcode
  obtain ⟨⟨hcontrol, -⟩, -⟩ | rfl := hcode
  · omega
  · decide

/-- Characters that a test tells apart. -/
theorem ne_of_test {p : Char → Bool} {c d : Char} (hc : p c = true) (hd : p d = false) : c ≠ d := by
  rintro rfl
  rw [hc] at hd
  cases hd

/-! ### Escapes -/

/-- An escape is a letter after a backslash, or a code point. -/
theorem escape?_cases {long : Bool} {c : Char} {e : List Char} (h : escape? long c = some e) :
    (∃ x, e = ['\\', x] ∧ shortEscape? x = some c) ∨ e = coded c ∧ c.toNat < 256 := by
  unfold escape? at h
  split_ifs at h <;> cases h
  -- all but the last branch give a letter
  all_goals first
    | exact .inr ⟨rfl, lt_of_needsCode ‹_›⟩
    | exact .inl ⟨_, rfl, by subst_vars; rfl⟩

theorem exists_of_escape? {long : Bool} {c : Char} {e : List Char} (h : escape? long c = some e) :
    ∃ e', e = '\\' :: e' := by
  obtain ⟨x, rfl, -⟩ | ⟨rfl, -⟩ := escape?_cases h
  · exact ⟨_, rfl⟩
  · exact ⟨_, rfl⟩

/-- A reader that understands escapes. -/
structure Unescapes (read : Place → List Char → List Char → Option (String × List Char)) :
    Prop where
  slash : ∀ done rest, read .plain done ('\\' :: rest) = read .escape done rest
  letter : ∀ {c e place} done rest, afterBackslash c = some (e, place) →
    read .escape done (c :: rest) = read place (pushed done e) rest
  digit : ∀ {more value c e place} done rest, afterDigit more value c = some (e, place) →
    read (.code more value) done (c :: rest) = read place (pushed done e) rest

theorem unescapes_basic : Unescapes basic where
  slash _ _ := rfl
  letter _ _ h := by rw [basic, h]
  digit _ _ h := by rw [basic, h]

theorem unescapes_basicLines : Unescapes basicLines where
  slash _ _ := rfl
  letter _ _ h := by
    rw [basicLines, h]
    -- none of the characters that hide a line break is the letter of an escape
    all_goals
      intros
      subst_vars
      cases h
  digit _ _ h := by rw [basicLines, h]

namespace Unescapes

variable {read : Place → List Char → List Char → Option (String × List Char)}

/-- A character with a letter of its own. -/
theorem short (h : Unescapes read) {c e : Char} (he : shortEscape? c = some e)
    (done rest : List Char) :
    read .plain done ('\\' :: c :: rest) = read .plain (e :: done) rest := by
  have hletter : afterBackslash c = some (some e, .plain) := by rw [afterBackslash, he]
  rw [h.slash, h.letter done rest hletter]
  rfl

/-- A character that is written by its code point. -/
theorem coded (h : Unescapes read) {c : Char} (hc : c.toNat < 256) (done rest : List Char) :
    read .plain done (Toml.coded c ++ rest) = read .plain (c :: done) rest := by
  have hdigit : ∀ d < 16, Hexadecimal.digit? (Hexadecimal.upperDigit d) = some d := by decide
  have hvalue : 16 * (c.toNat / 16) + c.toNat % 16 = c.toNat := Nat.div_add_mod _ _
  have hchar : ofCodePoint? c.toNat = some c := by
    rw [ofCodePoint?, if_pos (show c.toNat.isValidChar from c.valid), Char.ofNat_toNat]
  have hletter : afterBackslash 'u' = some (none, .code 3 0) := by decide
  -- the first two of the four digits are always zeros
  have hfirst : afterDigit 3 0 '0' = some (none, .code 2 0) := by decide
  have hsecond : afterDigit 2 0 '0' = some (none, .code 1 0) := by decide
  have hthird : afterDigit 1 0 (Hexadecimal.upperDigit (c.toNat / 16)) =
      some (none, .code 0 (c.toNat / 16)) := by
    rw [afterDigit, hdigit _ (by omega)]
    simp
  have hfourth : afterDigit 0 (c.toNat / 16) (Hexadecimal.upperDigit (c.toNat % 16)) =
      some (some c, .plain) := by
    rw [afterDigit, hdigit _ (by omega)]
    simp only [hvalue, hchar, Option.map_some]
  show read .plain done ('\\' :: 'u' :: '0' :: '0' :: _ :: _ :: rest) = _
  rw [h.slash, h.letter _ _ hletter, h.digit _ _ hfirst, h.digit _ _ hsecond, h.digit _ _ hthird,
    h.digit _ _ hfourth]
  rfl

/-- **An escaped character** is read back. -/
theorem escaped (h : Unescapes read) {long : Bool} {c : Char} {e : List Char}
    (he : escape? long c = some e) (done rest : List Char) :
    read .plain done (e ++ rest) = read .plain (c :: done) rest := by
  obtain ⟨x, rfl, hx⟩ | ⟨rfl, hc⟩ := escape?_cases he
  · exact h.short hx done rest
  · exact h.coded hc done rest

end Unescapes

/-- What is not escaped is a character that can stand as it is, or a line break. -/
theorem of_escape?_eq_none {long : Bool} {c : Char} (h : escape? long c = none) :
    c ≠ '\\' ∧ (isPlain c = true ∨ c = '\n' ∧ long = true) := by
  unfold escape? at h
  split_ifs at h with _ _ hbreak hlong _ _ hslash hcode
  · exact ⟨by rw [hbreak]; decide, .inr ⟨hbreak, hlong⟩⟩
  · exact ⟨hslash, .inl (isPlain_of_needsCode (eq_false_of_ne_true hcode) hbreak)⟩

/-! ### One line -/

theorem basic_plain {c : Char} (hplain : isPlain c = true) (hquote : c ≠ '"') (hslash : c ≠ '\\')
    (done rest : List Char) : basic .plain done (c :: rest) = basic .plain (c :: done) rest := by
  rw [basic]
  · simp [hplain]
  all_goals simp_all

/-- **A text with escapes** is read back. -/
theorem basic_escapedChars (done cs rest : List Char) :
    basic .plain done (escapedChars false 0 0 cs ++ '"' :: rest) =
      some (String.ofList (done.reverse ++ cs), rest) := by
  induction cs generalizing done with
  | nil => simp [escapedChars, basic]
  | cons c cs ih =>
    have hlater := ih (c :: done)
    rw [List.reverse_cons, List.append_assoc, List.singleton_append] at hlater
    by_cases hquote : c = '"'
    · subst hquote
      show basic .plain done ('\\' :: '"' :: (escapedChars false 0 0 cs ++ '"' :: rest)) = _
      rw [unescapes_basic.short (e := '"') rfl, hlater]
    · rw [escapedChars, if_neg hquote]
      cases he : escape? false c with
      | some e =>
        show basic .plain done (e ++ escapedChars false 0 0 cs ++ '"' :: rest) = _
        rw [List.append_assoc, unescapes_basic.escaped he, hlater]
      | none =>
        obtain ⟨hslash, hplain | ⟨-, hlong⟩⟩ := of_escape?_eq_none he
        · show basic .plain done (c :: (escapedChars false 0 0 cs ++ '"' :: rest)) = _
          rw [basic_plain hplain hquote hslash, hlater]
        · cases hlong

/-- **A text without escapes** is read back. -/
theorem literal_plain (done : List Char) {cs : List Char}
    (h : ∀ c ∈ cs, isPlain c = true ∧ c ≠ '\'') (rest : List Char) :
    literal done (cs ++ '\'' :: rest) = some (String.ofList (done.reverse ++ cs), rest) := by
  induction cs generalizing done with
  | nil => simp [literal]
  | cons c cs ih =>
    obtain ⟨hplain, hquote⟩ := h c List.mem_cons_self
    have hlater := ih (c :: done) fun d hd => h d (List.mem_cons_of_mem c hd)
    rw [List.reverse_cons, List.append_assoc, List.singleton_append] at hlater
    rw [List.cons_append, literal, if_pos hplain, hlater]
    exact fun he => absurd he hquote

/-! ### Several lines -/

/-- A reader of a text between three quotes. -/
structure ReadsLines (quote : Char) (read : List Char → List Char → Option (String × List Char)) :
    Prop where
  /-- A quote that does not close the text is part of it. -/
  one : ∀ done {rest}, ¬ [quote, quote] <+: rest →
    read done (quote :: rest) = read (quote :: done) rest
  /-- Of the quotes before the end of the line, the last three close the text. -/
  close : ∀ {run} done rest, run ≤ 2 →
    read done (List.replicate (run + 3) quote ++ '\n' :: rest) =
      some (String.ofList (done.reverse ++ List.replicate run quote), '\n' :: rest)

/-- One or two quotes before something else are part of the text. -/
theorem ReadsLines.inner {quote : Char} {read : List Char → List Char → Option (String × List Char)}
    (h : ReadsLines quote read) {run : Nat} (hrun : run ≤ 2) {c : Char} (hc : c ≠ quote)
    (done rest : List Char) :
    read done (List.replicate run quote ++ c :: rest) =
      read (List.replicate run quote ++ done) (c :: rest) := by
  obtain rfl | rfl | rfl : run = 0 ∨ run = 1 ∨ run = 2 := by omega
  · rfl
  · exact h.one done (by simp [hc.symm])
  · exact (h.one done (by simp [hc.symm])).trans (h.one _ (by simp [hc.symm]))

theorem replicate_quotes (run : Nat) (quote : Char) (rest : List Char) :
    List.replicate run quote ++ quote :: quote :: quote :: rest =
      List.replicate (run + 3) quote ++ rest := by
  rw [← List.replicate_append_replicate, List.append_assoc]
  rfl

theorem readsLines_basicLines : ReadsLines '"' (basicLines .plain) where
  one done rest h := by
    rw [basicLines]
    · rfl
    all_goals
      intros
      simp_all
  close {run} done rest hrun := by
    obtain rfl | rfl | rfl : run = 0 ∨ run = 1 ∨ run = 2 := by omega
    · simp [basicLines]
    · rfl
    · rfl

theorem readsLines_literalLines : ReadsLines '\'' literalLines where
  one done rest h := by
    rw [literalLines]
    · rfl
    all_goals
      intros
      simp_all
  close {run} done rest hrun := by
    obtain rfl | rfl | rfl : run = 0 ∨ run = 1 ∨ run = 2 := by omega
    · simp [literalLines]
    · rfl
    · rfl

theorem basicLines_plain {c : Char} (hplain : isPlain c = true ∨ c = '\n') (hquote : c ≠ '"')
    (hslash : c ≠ '\\') (done rest : List Char) :
    basicLines .plain done (c :: rest) = basicLines .plain (c :: done) rest := by
  obtain hplain | rfl := hplain
  · have hreturn := ne_of_test hplain (d := '\r') rfl
    have hbreak := ne_of_test hplain (d := '\n') rfl
    rw [basicLines]
    · simp [hplain]
    all_goals simp_all
  · rfl

theorem literalLines_plain {c : Char} (hplain : isPlain c = true ∨ c = '\n') (hquote : c ≠ '\'')
    (done rest : List Char) :
    literalLines done (c :: rest) = literalLines (c :: done) rest := by
  obtain hplain | rfl := hplain
  · have hreturn := ne_of_test hplain (d := '\r') rfl
    have hbreak := ne_of_test hplain (d := '\n') rfl
    rw [literalLines]
    · simp [hplain]
    all_goals simp_all
  · rfl

/-- **A text with escapes** is read back, with the quotes before it that have not been read. -/
theorem basicLines_escapedChars {run : Nat} (hrun : run ≤ 2) (done cs rest : List Char) :
    basicLines .plain done (List.replicate run '"' ++
        (escapedChars true 2 run cs ++ '"' :: '"' :: '"' :: '\n' :: rest)) =
      some (String.ofList (done.reverse ++ (List.replicate run '"' ++ cs)), '\n' :: rest) := by
  induction cs generalizing done run with
  | nil =>
    rw [escapedChars, List.nil_append, replicate_quotes, readsLines_basicLines.close _ _ hrun,
      List.append_nil]
  | cons c cs ih =>
    have hlater := ih (Nat.zero_le 2) (c :: (List.replicate run '"' ++ done))
    simp only [List.replicate_zero, List.nil_append, List.reverse_cons, List.reverse_append,
      List.reverse_replicate, List.append_assoc, List.singleton_append] at hlater
    by_cases hquote : c = '"'
    · subst hquote
      by_cases hroom : run < 2
      · -- one more quote that has not been read
        have hmore := ih (show run + 1 ≤ 2 from hroom) done
        simpa [escapedChars, hroom, List.replicate_succ'] using hmore
      · -- a third quote is escaped, and so the two before it are part of the text
        rw [escapedChars, if_pos rfl, if_neg hroom, List.cons_append, List.cons_append,
          readsLines_basicLines.inner hrun (by decide),
          unescapes_basicLines.short (e := '"') rfl, hlater]
    · rw [escapedChars, if_neg hquote]
      cases he : escape? true c with
      | some e =>
        obtain ⟨e', rfl⟩ := exists_of_escape? he
        have hescaped := unescapes_basicLines.escaped he
        simp only [List.cons_append] at hescaped ⊢
        rw [readsLines_basicLines.inner hrun (by decide), List.append_assoc, hescaped, hlater]
      | none =>
        obtain ⟨hslash, hplain⟩ := of_escape?_eq_none he
        simp only [List.cons_append]
        rw [readsLines_basicLines.inner hrun hquote,
          basicLines_plain (hplain.imp_right And.left) hquote hslash, hlater]

/-- **A text without escapes** is read back, with the quotes before it that have not been read. -/
theorem literalLines_raw {run : Nat} {cs : List Char} (hcode : ∀ c ∈ cs, needsCode c = false)
    (hrun : longestRun '\'' run cs ≤ 2) (done rest : List Char) :
    literalLines done (List.replicate run '\'' ++ (cs ++ '\'' :: '\'' :: '\'' :: '\n' :: rest)) =
      some (String.ofList (done.reverse ++ (List.replicate run '\'' ++ cs)), '\n' :: rest) := by
  induction cs generalizing done run with
  | nil =>
    rw [List.nil_append, replicate_quotes, List.append_nil]
    exact readsLines_literalLines.close done rest hrun
  | cons c cs ih =>
    have hcodes : ∀ d ∈ cs, needsCode d = false := fun d hd => hcode d (List.mem_cons_of_mem c hd)
    rw [longestRun] at hrun
    by_cases hquote : c = '\''
    · -- one more quote that has not been read
      subst hquote
      rw [if_pos rfl] at hrun
      have hmore := ih hcodes hrun done
      simpa [List.replicate_succ'] using hmore
    · -- the quotes that wait are part of the text, and so is the character
      rw [if_neg hquote] at hrun
      have hruns : longestRun '\'' 0 cs ≤ 2 := by omega
      have hlater := ih hcodes hruns (c :: (List.replicate run '\'' ++ done))
      simp only [List.replicate_zero, List.nil_append, List.reverse_cons, List.reverse_append,
        List.reverse_replicate, List.append_assoc, List.singleton_append] at hlater
      have hplain : isPlain c = true ∨ c = '\n' := by
        by_cases hbreak : c = '\n'
        · exact .inr hbreak
        · exact .inl (isPlain_of_needsCode (hcode c List.mem_cons_self) hbreak)
      rw [List.cons_append, readsLines_literalLines.inner (by omega) hquote,
        literalLines_plain hplain hquote, hlater]

/-! ### Kinds -/

theorem le_longestRun (c : Char) (run : Nat) (cs : List Char) : run ≤ longestRun c run cs := by
  induction cs generalizing run with
  | nil => exact Nat.le_refl run
  | cons d cs ih =>
    rw [longestRun]
    split
    · exact Nat.le_of_succ_le (ih (run + 1))
    · exact Nat.le_max_left _ _

theorem not_mem_of_longestRun {c : Char} {run : Nat} {cs : List Char}
    (h : longestRun c run cs = 0) : c ∉ cs := by
  induction cs generalizing run with
  | nil => exact List.not_mem_nil
  | cons d cs ih =>
    rw [longestRun] at h
    split at h
    · have := le_longestRun c (run + 1) cs
      omega
    · rename_i hne
      rw [List.mem_cons, not_or]
      exact ⟨fun he => hne he.symm, ih (Nat.max_eq_zero_iff.1 h).2⟩

/-- The texts that a kind can hold. -/
def Style.Holds (style : Style) (cs : List Char) : Prop :=
  match style with
  | .literal => ∀ c ∈ cs, isPlain c = true ∧ c ≠ '\''
  | .literalLines => (∀ c ∈ cs, needsCode c = false) ∧ longestRun '\'' 0 cs ≤ 2
  | _ => True

/-- **The kind** that is chosen for a text can hold it. -/
theorem holds_styleOf (cs : List Char) : (styleOf cs).Holds cs := by
  have hcodes (h : cs.any needsCode = false) : ∀ c ∈ cs, needsCode c = false := by
    simpa using h
  -- the kinds with escapes can hold any text, so only the other two have to be looked at
  simp only [styleOf]
  split
  · trivial
  · split
    · rename_i hkind
      simp only [Bool.and_eq_true, Bool.not_eq_true', decide_eq_true_eq] at hkind
      obtain ⟨⟨hcode, hbroken⟩, hsingle⟩ := hkind
      intro c hc
      constructor
      · apply isPlain_of_needsCode (hcodes hcode c hc)
        rintro rfl
        simp [hc] at hbroken
      · rintro rfl
        exact not_mem_of_longestRun hsingle hc
    · split
      · trivial
      · split
        · rename_i hkind
          simp only [Bool.and_eq_true, Bool.not_eq_true', decide_eq_true_eq] at hkind
          exact ⟨hcodes hkind.1, hkind.2⟩
        · split <;> trivial

/-! ### Any text -/

/-- The first character between the quotes. -/
theorem escapedChars_cons (long : Bool) (quotes : Nat) (c : Char) (cs : List Char) :
    ∃ d s, escapedChars long quotes 0 (c :: cs) = d :: s ∧
      (d = '\\' ∨ d = c ∧ (isPlain c = true ∨ c = '\n') ∧ (quotes = 0 → c ≠ '"')) := by
  by_cases hquote : c = '"'
  · subst hquote
    rw [escapedChars, if_pos rfl]
    split
    · rename_i hroom
      exact ⟨_, _, rfl, .inr ⟨rfl, .inl rfl, by omega⟩⟩
    · exact ⟨_, _, rfl, .inl rfl⟩
  · rw [escapedChars, if_neg hquote]
    cases he : escape? long c with
    | some e =>
      obtain ⟨e', rfl⟩ := exists_of_escape? he
      exact ⟨_, _, rfl, .inl rfl⟩
    | none =>
      have hplain := (of_escape?_eq_none he).2.imp_right And.left
      exact ⟨_, _, rfl, .inr ⟨rfl, hplain, fun _ => hquote⟩⟩

/-- A line break is dropped only if there is one. -/
theorem dropBreak_cons {c : Char} (hbreak : c ≠ '\n') (hreturn : c ≠ '\r') (rest : List Char) :
    dropBreak (c :: rest) = c :: rest := by
  rw [dropBreak]
  all_goals simp [hbreak, hreturn]

/-- A text on one line, with escapes. -/
theorem readText_basic (cs rest : List Char) :
    readText ('"' :: (escapedChars false 0 0 cs ++ '"' :: '\n' :: rest)) =
      some (String.ofList cs, '\n' :: rest) := by
  -- no second quote follows the first one at once, unless the text is empty
  have hclosed : ¬ ['"', '"'] <+: escapedChars false 0 0 cs ++ '"' :: '\n' :: rest := by
    cases cs with
    | nil => simp [escapedChars]
    | cons c cs =>
      obtain ⟨d, s, hd, hkind⟩ := escapedChars_cons false 0 c cs
      have hne : '"' ≠ d := by
        obtain rfl | ⟨rfl, -, hquote⟩ := hkind
        · decide
        · exact (hquote rfl).symm
      simp [hd, hne]
  rw [readText]
  · exact basic_escapedChars [] cs ('\n' :: rest)
  · intro t ht
    simp [ht] at hclosed

/-- A text on one line, without escapes. -/
theorem readText_literal {cs : List Char} (h : Style.literal.Holds cs) (rest : List Char) :
    readText ('\'' :: (cs ++ '\'' :: '\n' :: rest)) = some (String.ofList cs, '\n' :: rest) := by
  have hclosed : ¬ ['\'', '\''] <+: cs ++ '\'' :: '\n' :: rest := by
    cases cs with
    | nil => simp
    | cons c cs => simp [((h c List.mem_cons_self).2).symm]
  rw [readText]
  · exact literal_plain [] h ('\n' :: rest)
  · intro t ht
    simp [ht] at hclosed

/-- What stands between the opening quotes of a long text and the text. -/
def opening (cs : List Char) : List Char :=
  if cs.contains '\n' then ['\n'] else []

/-- The opening of a long text is dropped, and nothing else. -/
theorem dropBreak_opening {cs body : List Char}
    (hbody : '\n' ∉ cs → ∃ c s, body = c :: s ∧ c ≠ '\n' ∧ c ≠ '\r') :
    dropBreak (opening cs ++ body) = body := by
  unfold opening
  by_cases hbroken : '\n' ∈ cs
  · simp only [List.contains_iff_mem, hbroken, if_true]
    rfl
  · obtain ⟨c, s, rfl, hbreak, hreturn⟩ := hbody hbroken
    simp only [List.contains_iff_mem, hbroken, if_false]
    exact dropBreak_cons hbreak hreturn s

/-- A text on several lines, with escapes. -/
theorem readText_basicLines (cs rest : List Char) :
    readText ('"' :: '"' :: '"' ::
        (opening cs ++ (escapedChars true 2 0 cs ++ '"' :: '"' :: '"' :: '\n' :: rest))) =
      some (String.ofList cs, '\n' :: rest) := by
  rw [readText, dropBreak_opening]
  · exact basicLines_escapedChars (Nat.zero_le 2) [] cs rest
  · intro hbroken
    cases cs with
    | nil => exact ⟨_, _, rfl, by decide, by decide⟩
    | cons c cs =>
      obtain ⟨d, s, hd, hkind⟩ := escapedChars_cons true 2 c cs
      refine ⟨d, _, by rw [hd, List.cons_append], ?_⟩
      obtain rfl | ⟨rfl, hplain | rfl, -⟩ := hkind
      · decide
      · exact ⟨ne_of_test hplain rfl, ne_of_test hplain rfl⟩
      · exact absurd List.mem_cons_self hbroken

/-- A text on several lines, without escapes. -/
theorem readText_literalLines {cs : List Char} (h : Style.literalLines.Holds cs)
    (rest : List Char) :
    readText ('\'' :: '\'' :: '\'' ::
        (opening cs ++ (cs ++ '\'' :: '\'' :: '\'' :: '\n' :: rest))) =
      some (String.ofList cs, '\n' :: rest) := by
  rw [readText, dropBreak_opening]
  · exact literalLines_raw h.1 h.2 [] rest
  · intro hbroken
    cases cs with
    | nil => exact ⟨_, _, rfl, by decide, by decide⟩
    | cons c cs =>
      refine ⟨c, _, rfl, ?_, ?_⟩
      · rintro rfl
        exact hbroken List.mem_cons_self
      · -- a carriage return is written by its code point
        rintro rfl
        cases h.1 '\r' List.mem_cons_self

/-- **A text** at the end of a line is read back. -/
theorem readText_textChars (cs rest : List Char) :
    readText (textChars cs ++ '\n' :: rest) = some (String.ofList cs, '\n' :: rest) := by
  have hholds := holds_styleOf cs
  simp only [textChars]
  generalize styleOf cs = style at hholds
  cases style with
  | basic => simpa [Style.quotes, Style.isLong, Style.body] using readText_basic cs rest
  | literal => simpa [Style.quotes, Style.isLong, Style.body] using readText_literal hholds rest
  | basicLines =>
    simpa [Style.quotes, Style.isLong, Style.body, opening] using readText_basicLines cs rest
  | literalLines =>
    simpa [Style.quotes, Style.isLong, Style.body, opening] using readText_literalLines hholds rest

end Toml

end AlertRelay
