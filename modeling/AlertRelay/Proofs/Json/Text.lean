/-
AlertRelay/Proofs/Json/Text.lean

Strings: which texts are taken for one, and what they spell.

The reader goes through the bytes with an automaton, the grammar from one character or escape to
the next.  Both stand between characters at the same places.  From one such place to the next the
automaton makes at most twelve steps, and ten of these are inside of the two numbers that an escape
can have; so four digits are dealt with at once (`stringBytes_hex`), and what is left is an
induction on what has not been read.

The reader that passes over a string stands at the same places, and asks less of the numbers.
-/
import AlertRelay.Proofs.Json.Grammar

namespace AlertRelay

namespace Json

/-! ### Four digits -/

/-- What the automaton does after the four digits of a number. -/
def afterNumber (high : Option Nat) (v : Nat) : Except Cause (StringState × Bytes) :=
  match high with
  | none =>
    if isLowSurrogate v then .error .loneSurrogate
    else if isHighSurrogate v then .ok (.paired v, [])
    else .ok (.plain, utf8OfCodePoint v)
  | some h =>
    if isLowSurrogate v then .ok (.plain, utf8OfCodePoint (joinSurrogates h v))
    else .error .loneSurrogate

/-- A digit is one of the first three, or ends the number. -/
theorem step_digit {b : UInt8} {d : Nat} (hd : Hexadecimal.byteDigit? b = some d)
    (high : Option Nat) (count v : Nat) :
    StringState.step b (.hex high count (some v)) =
      if count < 3 then .ok (.hex high (count + 1) (some (v * 16 + d)), [])
      else afterNumber high (v * 16 + d) := by
  cases high <;> simp only [StringState.step, hd, afterNumber]

/-- A number is read as a whole. -/
theorem stringBytes_hex (done : Bytes) (high : Option Nat) {ds : Bytes} {v : Nat}
    (hds : FourDigits ds v) (s : Bytes) :
    stringBytes done (.hex high 0 (some 0)) (ds ++ s) =
      match afterNumber high v with
      | .error cause => .error (.taken cause s)
      | .ok (next, bytes) => stringBytes (bytes.reverse ++ done) next s := by
  have hdigit : ∀ {count v d : Nat} {b : UInt8} {s : Bytes}, count < 3 →
      Hexadecimal.byteDigit? b = some d → stringBytes done (.hex high count (some v)) (b :: s) =
        stringBytes done (.hex high (count + 1) (some (v * 16 + d))) s := by
    intro count v d b s hcount hd
    rw [stringBytes, if_neg (by simp), step_digit hd, if_pos hcount]
    rfl
  obtain ⟨first, second, third, fourth⟩ := hds
  show stringBytes done _ (_ :: _ :: _ :: _ :: s) = _
  rewrite [hdigit (by decide) first, hdigit (by decide) second, hdigit (by decide) third,
    stringBytes, if_neg (by simp), step_digit fourth, if_neg (by decide), Nat.zero_mul,
    Nat.zero_add]
  rfl

/-- What does not begin with four digits is refused. -/
theorem exists_fourDigits {done : Bytes} {high : Option Nat} {s : Bytes} {r : Bytes × Bytes}
    (h : stringBytes done (.hex high 0 (some 0)) s = .ok r) :
    ∃ ds v s', FourDigits ds v ∧ s = ds ++ s' := by
  -- the automaton has to see four bytes, and refuses once it has seen one that is no digit
  rcases s with - | ⟨a, - | ⟨b, - | ⟨c, - | ⟨d, s⟩⟩⟩⟩
  · simp [stringBytes] at h
  · simp [stringBytes, StringState.step] at h
  · simp [stringBytes, StringState.step] at h
  · simp [stringBytes, StringState.step] at h
  · cases ha : Hexadecimal.byteDigit? a with
    | none => simp [stringBytes, StringState.step, ha] at h
    | some i =>
      cases hb : Hexadecimal.byteDigit? b with
      | none => simp [stringBytes, StringState.step, ha, hb] at h
      | some j =>
        cases hc : Hexadecimal.byteDigit? c with
        | none => simp [stringBytes, StringState.step, ha, hb, hc] at h
        | some k =>
          cases hd : Hexadecimal.byteDigit? d with
          | none => simp [stringBytes, StringState.step, ha, hb, hc, hd] at h
          | some l => exact ⟨[a, b, c, d], _, s, .mk ha hb hc hd, rfl⟩

/-! ### Strings that are read -/

theorem stringBytes_code (done : Bytes) {ds : Bytes} {v : Nat} (hds : FourDigits ds v)
    (hhigh : isHighSurrogate v = false) (hlow : isLowSurrogate v = false) (s : Bytes) :
    stringBytes done .plain (0x5c :: 0x75 :: (ds ++ s)) =
      stringBytes ((utf8OfCodePoint v).reverse ++ done) .plain s := by
  have hnumber := stringBytes_hex done none hds s
  simp only [afterNumber, hlow, hhigh, Bool.false_eq_true, if_false] at hnumber
  rw [← hnumber]
  simp [stringBytes, StringState.step]

theorem stringBytes_pair (done : Bytes) {ds ds' : Bytes} {v v' : Nat} (hds : FourDigits ds v)
    (hds' : FourDigits ds' v') (hhigh : isHighSurrogate v = true)
    (hlow : isLowSurrogate v = false) (hlow' : isLowSurrogate v' = true) (s : Bytes) :
    stringBytes done .plain (0x5c :: 0x75 :: (ds ++ 0x5c :: 0x75 :: (ds' ++ s))) =
      stringBytes ((utf8OfCodePoint (joinSurrogates v v')).reverse ++ done) .plain s := by
  have hfirst := stringBytes_hex done none hds (0x5c :: 0x75 :: (ds' ++ s))
  have hsecond := stringBytes_hex done (some v) hds' s
  simp only [afterNumber, hlow, hhigh, Bool.false_eq_true, if_false, if_true] at hfirst
  simp only [afterNumber, hlow', if_true] at hsecond
  rw [← hsecond]
  simp [stringBytes, StringState.step] at hfirst ⊢
  exact hfirst

/-- A number is not both. -/
theorem isLowSurrogate_of_high {v : Nat} (h : isHighSurrogate v = true) :
    isLowSurrogate v = false := by
  simp [isHighSurrogate, isLowSurrogate] at h ⊢
  omega

/-- **The inside of a string** is read, and its quote. -/
theorem stringBytes_chars (done : Bytes) {t m : Bytes} (h : Chars t m) (rest : Bytes) :
    stringBytes done .plain (t ++ 0x22 :: rest) = .ok (done.reverse ++ m, rest) := by
  induction h generalizing done with
  | nil => simp [stringBytes]
  | @plain b t m itself _ ih =>
    rw [List.cons_append]
    have hplain : ∀ x ∈ [b], x ≠ 0x22 ∧ x ≠ 0x5c ∧ ¬ x < 0x20 :=
      fun x hx => List.mem_singleton.1 hx ▸ itself
    have hb := stringBytes_plain done hplain (t ++ 0x22 :: rest)
    simp only [List.singleton_append, List.reverse_singleton] at hb
    rw [hb, ih]
    simp
  | @short c b t m letter _ ih =>
    -- the letter of a number in hexadecimal is no short escape
    have hc : c ≠ 0x75 := by
      rintro rfl
      have hnone : shortEscape? 0x75 = none := by decide
      rw [hnone] at letter
      cases letter
    have hstep : stringBytes done .plain (0x5c :: c :: (t ++ 0x22 :: rest)) =
        stringBytes (b :: done) .plain (t ++ 0x22 :: rest) := by
      simp [stringBytes, StringState.step, hc, letter]
    rw [List.cons_append, List.cons_append, hstep, ih]
    simp
  | @code ds t m v digits high low _ ih =>
    rw [List.cons_append, List.cons_append, List.append_assoc,
      stringBytes_code done digits high low, ih]
    simp
  | @pair ds ds' t m v v' first second high low _ ih =>
    have htext : 0x5c :: 0x75 :: (ds ++ 0x5c :: 0x75 :: (ds' ++ t)) ++ 0x22 :: rest =
        0x5c :: 0x75 :: (ds ++ 0x5c :: 0x75 :: (ds' ++ (t ++ 0x22 :: rest))) := by simp
    rw [htext, stringBytes_pair done first second high (isLowSurrogate_of_high high) low, ih]
    simp

/-- After a high surrogate there has to be a low one. -/
theorem exists_second {done s : Bytes} {v : Nat} {r : Bytes × Bytes}
    (h : stringBytes done (.paired v) s = .ok r) :
    ∃ ds v' s', FourDigits ds v' ∧ isLowSurrogate v' = true ∧ s = 0x5c :: 0x75 :: (ds ++ s') := by
  rcases s with - | ⟨d, - | ⟨e, s⟩⟩
  · simp [stringBytes] at h
  · by_cases hd : d = 0x5c <;> simp [stringBytes, StringState.step, hd] at h
  · by_cases hd : d = 0x5c
    · by_cases he : e = 0x75
      · subst hd he
        have hhex : stringBytes done (.hex (some v) 0 (some 0)) s = .ok r := by
          rw [← h]
          simp [stringBytes, StringState.step]
        obtain ⟨ds, v', s', hds, rfl⟩ := exists_fourDigits hhex
        rw [stringBytes_hex done (some v) hds] at hhex
        cases hlow : isLowSurrogate v' with
        | true => exact ⟨ds, v', s', hds, hlow, rfl⟩
        | false => simp [afterNumber, hlow] at hhex
      · simp [stringBytes, StringState.step, hd, he] at h
    · simp [stringBytes, StringState.step, hd] at h

/-- A character or an escape, and what it spells. -/
def IsUnit (u x : Bytes) : Prop :=
  u ≠ [] ∧ ∀ t m, Chars t m → Chars (u ++ t) (x ++ m)

/-- What follows a backslash is the rest of an escape. -/
theorem exists_escape {done s m rest : Bytes}
    (h : stringBytes done .plain (0x5c :: s) = .ok (m, rest)) :
    ∃ u x s', IsUnit u x ∧ 0x5c :: s = u ++ s' ∧
      stringBytes (x.reverse ++ done) .plain s' = .ok (m, rest) := by
  cases s with
  | nil => simp [stringBytes, StringState.step] at h
  | cons c s =>
    by_cases hu : c = 0x75
    · subst hu
      have hhex : stringBytes done (.hex none 0 (some 0)) s = .ok (m, rest) := by
        rw [← h]
        simp [stringBytes, StringState.step]
      obtain ⟨ds, v, s, hds, rfl⟩ := exists_fourDigits hhex
      rw [stringBytes_hex done none hds] at hhex
      cases hlow : isLowSurrogate v with
      | true => simp [afterNumber, hlow] at hhex
      | false =>
        cases hhigh : isHighSurrogate v with
        | false =>
          rw [stringBytes_code done hds hhigh hlow] at h
          exact ⟨0x5c :: 0x75 :: ds, _, s, ⟨List.cons_ne_nil _ _, fun t m ht =>
            .code hds hhigh hlow ht⟩, rfl, h⟩
        | true =>
          -- the first half of a pair
          simp only [afterNumber, hlow, hhigh, Bool.false_eq_true, if_false, if_true] at hhex
          obtain ⟨ds', v', s, hds', hlow', rfl⟩ := exists_second hhex
          rw [stringBytes_pair done hds hds' hhigh hlow hlow'] at h
          refine ⟨0x5c :: 0x75 :: (ds ++ 0x5c :: 0x75 :: ds'), _, s, ⟨List.cons_ne_nil _ _,
            fun t m ht => ?_⟩, by simp, h⟩
          simpa using Chars.pair hds hds' hhigh hlow' ht
    · cases hc : shortEscape? c with
      | none => simp [stringBytes, StringState.step, hu, hc] at h
      | some x =>
        refine ⟨[0x5c, c], [x], s, ⟨List.cons_ne_nil _ _, fun t m ht => .short hc ht⟩, rfl, ?_⟩
        rw [← h]
        simp [stringBytes, StringState.step, hu, hc]

/-- What is read from between two characters begins with the quote or with one more of them. -/
theorem exists_unit {done s m rest : Bytes} (h : stringBytes done .plain s = .ok (m, rest)) :
    (s = 0x22 :: rest ∧ m = done.reverse) ∨
      ∃ u x s', IsUnit u x ∧ s = u ++ s' ∧
        stringBytes (x.reverse ++ done) .plain s' = .ok (m, rest) := by
  cases s with
  | nil => simp [stringBytes] at h
  | cons b s =>
    by_cases hquote : b = 0x22
    · subst hquote
      simp [stringBytes] at h
      exact .inl ⟨by rw [h.2], h.1.symm⟩
    · right
      by_cases hslash : b = 0x5c
      · subst hslash
        exact exists_escape h
      · by_cases hcontrol : b < 0x20
        · simp [stringBytes, StringState.step, hquote, hslash, hcontrol] at h
        · refine ⟨[b], [b], s, ⟨List.cons_ne_nil _ _, fun t m ht =>
            .plain ⟨hquote, hslash, hcontrol⟩ ht⟩, rfl, ?_⟩
          rw [← h, stringBytes]
          simp [StringState.step, hquote, hslash, hcontrol]

/-- **What is read** is the inside of a string. -/
theorem exists_chars {done s m rest : Bytes} (h : stringBytes done .plain s = .ok (m, rest)) :
    ∃ t m', Chars t m' ∧ s = t ++ 0x22 :: rest ∧ m = done.reverse ++ m' := by
  -- an escape takes several bytes, so the induction is on how many are left
  induction hn : s.length using Nat.strong_induction_on generalizing s done with
  | _ n ih =>
    subst hn
    rcases exists_unit h with ⟨rfl, rfl⟩ | ⟨u, x, s, ⟨hne, hunit⟩, rfl, htail⟩
    · exact ⟨[], [], .nil, rfl, by simp⟩
    · have hshorter : s.length < (u ++ s).length := by
        have := List.length_pos_iff.2 hne
        rw [List.length_append]
        omega
      obtain ⟨t, m', ht, rfl, rfl⟩ := ih _ hshorter htail rfl
      exact ⟨u ++ t, x ++ m', hunit t m' ht, by simp, by simp⟩

/-- Bytes spell a text if they are the bytes of it. -/
theorem ofUtf8?_eq_some_iff {bytes : Bytes} {s : String} :
    ofUtf8? bytes = some s ↔ bytes = utf8 s := by
  constructor
  · intro h
    unfold ofUtf8? String.fromUTF8? at h
    split at h
    · cases h
      simp [utf8, String.fromUTF8]
    · cases h
  · rintro rfl
    exact ofUtf8?_utf8 s

/-- **A string** is read from its inside and its quote, and from nothing else. -/
theorem text_eq_ok_iff {s : Bytes} {x : String} {rest : Bytes} :
    text s = .ok (x, rest) ↔ ∃ t, Chars t (utf8 x) ∧ s = t ++ 0x22 :: rest := by
  constructor
  · intro h
    unfold text at h
    split at h
    · cases h
    · rename_i m left hread
      split at h
      · rename_i y hy
        cases h
        obtain ⟨t, m', ht, rfl, hm⟩ := exists_chars hread
        rw [List.reverse_nil, List.nil_append] at hm
        exact ⟨t, by rw [← ofUtf8?_eq_some_iff.1 hy, hm]; exact ht, rfl⟩
      · cases h
  · rintro ⟨t, ht, rfl⟩
    rw [text, stringBytes_chars [] ht]
    simp

/-! ### Strings that nobody reads -/

/-- What does not begin with four digits is refused here too. -/
theorem skipString_hex {s rest : Bytes} :
    skipString (.hex 0 true) s = .ok rest ↔
      ∃ ds v s', FourDigits ds v ∧ s = ds ++ s' ∧ skipString .plain s' = .ok rest := by
  constructor
  · intro h
    rcases s with - | ⟨a, - | ⟨b, - | ⟨c, - | ⟨d, s⟩⟩⟩⟩
    · simp [skipString] at h
    · simp [skipString] at h
    · simp [skipString] at h
    · simp [skipString] at h
    · simp only [skipString, Bool.true_and, Nat.reduceAdd, Nat.reduceLT, if_true, lt_irrefl,
        if_false] at h
      split_ifs at h with hgood
      simp only [Bool.and_eq_true] at hgood
      obtain ⟨⟨⟨ha, hb⟩, hc⟩, hd⟩ := hgood
      obtain ⟨i, ha⟩ := Option.isSome_iff_exists.1 ha
      obtain ⟨j, hb⟩ := Option.isSome_iff_exists.1 hb
      obtain ⟨k, hc⟩ := Option.isSome_iff_exists.1 hc
      obtain ⟨l, hd⟩ := Option.isSome_iff_exists.1 hd
      exact ⟨[a, b, c, d], _, s, .mk ha hb hc hd, rfl, h⟩
  · rintro ⟨_, _, s', ⟨first, second, third, fourth⟩, rfl, h⟩
    simpa [skipString, first, second, third, fourth] using h

/-- **A string that nobody reads** is passed from its inside and its quote on, and nothing else
is. -/
theorem skipString_eq_ok_iff {s rest : Bytes} :
    skipString .plain s = .ok rest ↔ ∃ t, FormedChars t ∧ s = t ++ 0x22 :: rest := by
  constructor
  · intro h
    induction hn : s.length using Nat.strong_induction_on generalizing s with
    | _ n ih =>
      subst hn
      cases s with
      | nil => simp [skipString] at h
      | cons b s =>
        rw [skipString] at h
        split_ifs at h with hquote hslash hcontrol
        · cases h
          exact ⟨[], .nil, by rw [hquote]; rfl⟩
        · subst hslash
          cases s with
          | nil => simp [skipString] at h
          | cons c s =>
            rw [skipString] at h
            split_ifs at h with hu hshort
            · -- any four digits will do here, surrogates are not paired
              subst hu
              obtain ⟨ds, v, s, hds, rfl, htail⟩ := skipString_hex.1 h
              have hshorter : s.length < (0x5c :: 0x75 :: (ds ++ s)).length := by
                rw [List.length_cons, List.length_cons, List.length_append]
                omega
              obtain ⟨t, ht, rfl⟩ := ih _ hshorter htail rfl
              exact ⟨_, .code hds ht, by simp⟩
            · have hshorter : s.length < (0x5c :: c :: s).length := by
                rw [List.length_cons, List.length_cons]
                omega
              obtain ⟨t, ht, rfl⟩ := ih _ hshorter h rfl
              exact ⟨_, .short hshort ht, rfl⟩
        · obtain ⟨t, ht, rfl⟩ := ih _ (by simp) h rfl
          exact ⟨_, .plain ⟨hquote, hslash, hcontrol⟩ ht, rfl⟩
  · rintro ⟨t, ht, rfl⟩
    induction ht with
    | nil => simp [skipString]
    | @plain b t itself _ ih =>
      obtain ⟨hquote, hslash, hcontrol⟩ := itself
      rw [List.cons_append, skipString, if_neg hquote, if_neg hslash, if_neg hcontrol, ih]
    | @short c t letter _ ih =>
      have hc : c ≠ 0x75 := by
        rintro rfl
        exact absurd letter (by decide)
      rw [List.cons_append, List.cons_append, skipString, if_neg (by decide), if_pos rfl,
        skipString, if_neg hc, if_pos letter, ih]
    | @code ds t v digits _ ih =>
      rw [List.cons_append, List.cons_append, skipString, if_neg (by decide), if_pos rfl,
        skipString, if_pos rfl, skipString_hex]
      exact ⟨ds, v, _, digits, by simp, ih⟩

end Json

end AlertRelay
