/-
AlertRelay/Proofs/Json/Value.lean

Values, read back as they were written.

The readers of objects share their punctuation and differ in what they make of a member.  So the
object is dealt with once: if each member in its turn is read into what was gathered before
(`ReadsMember`, `ReadsMembers`), then the object is, from its brace to its brace
(`fields_memberChars`).  A reader of records shows how it reads its own fields and has the rest
from here.

The relay writes texts, whole numbers and objects of these, never a list or a fraction
(`Plain`).  The reader of arbitrary values takes each of them back, if as many brackets may be
open as the value needs (`value_chars`).
-/
import AlertRelay.Json.Reader
import AlertRelay.Proofs.Json.Token

namespace AlertRelay

namespace Json

/-! ### Blanks -/

/-- There is nothing to skip before a byte that is no blank. -/
theorem skipBlank_cons {b : UInt8} (h : isBlank b = false) (rest : Bytes) :
    skipBlank (b :: rest) = b :: rest := by
  simp [skipBlank, h]

/-! ### Objects -/

/-- What follows the value of a member: the closing brace, or a comma and the other members. -/
def tailChars : Members → List Char
  | [] => ['\x7d']
  | m :: ms => ',' :: memberChars (m :: ms)

/-- The text of an object begins with a member, if it has one. -/
theorem memberChars_cons (m : String × Json) (ms : Members) :
    memberChars (m :: ms) =
      '"' :: (m.1.toList.flatMap escaped ++ '"' :: ':' :: (chars m.2 ++ tailChars ms)) := by
  cases ms with
  | nil => simp [memberChars, stringChars, tailChars]
  | cons m' ms => simp [memberChars, stringChars, tailChars]

/-- The text of an object, from its opening brace. -/
theorem utf8_write_object (ms : Members) :
    utf8 (write (.object ms)) = 0x7b :: spelled (memberChars ms) := by
  rw [write, utf8_ofList, chars, spelled_open]

theorem ends_tailChars (ms : Members) (rest : Bytes) : Ends (spelled (tailChars ms) ++ rest) := by
  cases ms with
  | nil =>
    rw [tailChars, spelled_close]
    exact ⟨by decide, by decide, by decide, by decide⟩
  | cons m ms =>
    rw [tailChars, spelled_comma]
    exact ⟨by decide, by decide, by decide, by decide⟩

section

variable {σ : Type} {step : σ → String → Reader σ}

/-- A member is read, from the byte after its name, and what was gathered becomes something else. -/
def ReadsMember (step : σ → String → Reader σ) (g : σ) (m : String × Json) (g' : σ) : Prop :=
  ∀ rest, Ends rest → step g m.1 (0x3a :: (spelled (chars m.2) ++ rest)) = .ok (g', rest)

/-- Members are read, one after the other. -/
inductive ReadsMembers (step : σ → String → Reader σ) : σ → Members → σ → Prop where
  | nil (g : σ) : ReadsMembers step g [] g
  | cons {g g' g'' : σ} {m : String × Json} {ms : Members} (head : ReadsMember step g m g')
      (tail : ReadsMembers step g' ms g'') : ReadsMembers step g (m :: ms) g''

/-- The name of a member and its value, at the head of a text. -/
theorem readsMember_named {g g' : σ} {m : String × Json} (h : ReadsMember step g m g')
    (ms : Members) (rest : Bytes) :
    ∃ s, spelled (memberChars (m :: ms)) ++ rest = 0x22 :: s ∧
      ∃ t, text s = .ok (m.1, t) ∧ step g m.1 t = .ok (g', spelled (tailChars ms) ++ rest) ∧
        (spelled (tailChars ms) ++ rest).length ≤ s.length := by
  -- after the name comes its quote, then the colon from which the member is read
  refine ⟨spelled (m.1.toList.flatMap escaped) ++
    0x22 :: 0x3a :: (spelled (chars m.2) ++ (spelled (tailChars ms) ++ rest)), ?_, _,
    text_escaped m.1 _, h _ (ends_tailChars ms rest), ?_⟩
  · simp [memberChars_cons]
  · simp
    omega

theorem moreFields_tailChars {g g' : σ} {ms : Members} (h : ReadsMembers step g ms g')
    (rest : Bytes) {fuel : Nat} (hfuel : (spelled (tailChars ms) ++ rest).length ≤ fuel) :
    moreFields step fuel g (spelled (tailChars ms) ++ rest) = .ok (g', rest) := by
  -- each member takes at least its comma, so the count lasts
  induction h generalizing fuel with
  | nil g =>
    obtain ⟨fuel, rfl⟩ : ∃ n, fuel = n + 1 := by
      refine Nat.exists_eq_succ_of_ne_zero fun he => ?_
      simp [he, tailChars] at hfuel
    rw [tailChars, spelled_close]
    simp [moreFields, skipBlank_cons (b := 0x7d) (by decide)]
  | @cons g g₁ g₂ m ms head tail ih =>
    obtain ⟨s, hs, t, hname, hstep, hlength⟩ := readsMember_named head ms rest
    have htext : spelled (tailChars (m :: ms)) ++ rest = 0x2c :: 0x22 :: s := by
      rw [tailChars, spelled_comma, List.cons_append, hs]
    rw [htext] at hfuel ⊢
    obtain ⟨fuel, rfl⟩ : ∃ n, fuel = n + 1 := by
      refine Nat.exists_eq_succ_of_ne_zero fun he => ?_
      simp [he] at hfuel
    have hleft : (spelled (tailChars ms) ++ rest).length ≤ fuel := by
      simp at hfuel hlength ⊢
      omega
    simp only [moreFields, skipBlank_cons (b := 0x2c) (by decide),
      skipBlank_cons (b := 0x22) (by decide), hname, hstep, bind, Except.bind]
    exact ih hleft

/-- **An object** is read from the byte after its opening brace, if its members are. -/
theorem fields_memberChars {g g' : σ} {ms : Members} (h : ReadsMembers step g ms g')
    (rest : Bytes) : fields step g (spelled (memberChars ms) ++ rest) = .ok (g', rest) := by
  cases h with
  | nil =>
    rw [memberChars, spelled_close]
    simp [fields, skipBlank_cons (b := 0x7d) (by decide)]
  | @cons _ g₁ _ m ms head tail =>
    obtain ⟨s, hs, t, hname, hstep, -⟩ := readsMember_named head ms rest
    rw [hs]
    simp only [fields, skipBlank_cons (b := 0x22) (by decide), hname, hstep, bind, Except.bind]
    exact moreFields_tailChars tail rest (Nat.le_refl _)

end

/-! ### Values -/

/-- What the relay writes: texts, whole numbers, and objects of these with at most so many brackets
open at a time. -/
inductive Plain : (depth : Nat) → Json → Prop where
  | string (depth : Nat) (s : String) : Plain depth (.string s)
  | integer (depth : Nat) {n : Int} (whole : IsWhole n) : Plain depth (.integer n)
  | object {depth : Nat} {ms : Members} (members : ∀ m ∈ ms, Plain depth m.2) :
      Plain (depth + 1) (.object ms)

/-- A value that is no bracket is read as a scalar, however many brackets may be open. -/
theorem value_eq_scalar (depth : Nat) {b : UInt8} (hblank : isBlank b = false) (hlist : b ≠ 0x5b)
    (hobject : b ≠ 0x7b) (rest : Bytes) : value depth (b :: rest) = scalar (b :: rest) := by
  cases depth <;>
  · rw [value, skipBlank_cons hblank]
    split
    · rename_i he
      exact absurd (List.cons.inj he).1 hlist
    · rename_i he
      exact absurd (List.cons.inj he).1 hobject
    · rfl

/-- The text of a text, from its quote. -/
theorem spelled_chars_string (s : String) (rest : Bytes) :
    spelled (chars (.string s)) ++ rest =
      0x22 :: (spelled (s.toList.flatMap escaped) ++ 0x22 :: rest) := by
  simp [chars, stringChars]

theorem value_string (depth : Nat) (s : String) (rest : Bytes) :
    value depth (spelled (chars (.string s)) ++ rest) = .ok (.string s, rest) := by
  rw [spelled_chars_string, value_eq_scalar depth (by decide) (by decide) (by decide)]
  simp [scalar, text_escaped, bind, Except.bind, pure, Except.pure]

/-- A byte at which a number can begin begins nothing else. -/
theorem number_begins {b : UInt8} (h : b = 0x2d ∨ (digit? b).isSome = true) :
    isBlank b = false ∧ b ≠ 0x5b ∧ b ≠ 0x7b ∧ b ≠ 0x6e ∧ b ≠ 0x74 ∧ b ≠ 0x66 ∧ b ≠ 0x22 := by
  have hrange : b.toNat = 0x2d ∨ (0x30 ≤ b.toNat ∧ b.toNat ≤ 0x39) := by
    rcases h with rfl | h
    · exact .inl rfl
    · right
      unfold digit? at h
      split at h
      · rename_i hb
        simpa [UInt8.le_iff_toNat_le] using hb
      · cases h
  simp only [isBlank, Bool.or_eq_false_iff, decide_eq_false_iff_not, ne_eq, ← UInt8.toNat_inj,
    UInt8.reduceToNat]
  omega

theorem value_integer (depth : Nat) {n : Int} (hn : IsWhole n) {rest : Bytes} (hrest : Ends rest) :
    value depth (spelled (chars (.integer n)) ++ rest) = .ok (.integer n, rest) := by
  have hread := number_toString hn hrest
  obtain ⟨b, bs, hb, hfirst⟩ := spelled_toString_eq_cons n
  obtain ⟨hblank, hlist, hobject, hnull, htrue, hfalse, hquote⟩ := number_begins hfirst
  rw [hb, List.cons_append] at hread
  rw [chars, hb, List.cons_append, value_eq_scalar depth hblank hlist hobject]
  simp [scalar, hnull, htrue, hfalse, hquote, hfirst, hread, bind, Except.bind, pure, Except.pure]

/-- A member whose value is read back is gathered with its value. -/
theorem readsMember_member {read : Reader Json} (done : Members) {m : String × Json}
    (h : ∀ rest, Ends rest → read (spelled (chars m.2) ++ rest) = .ok (m.2, rest)) :
    ReadsMember (member read) done m (m :: done) := by
  intro rest hrest
  simp [member, colon, skipBlank_cons (b := 0x3a) (by decide), h rest hrest, bind, Except.bind,
    pure, Except.pure]

theorem readsMembers_member {read : Reader Json} {ms : Members}
    (h : ∀ m ∈ ms, ∀ rest, Ends rest → read (spelled (chars m.2) ++ rest) = .ok (m.2, rest))
    (done : Members) : ReadsMembers (member read) done ms (ms.reverse ++ done) := by
  induction ms generalizing done with
  | nil => exact .nil done
  | cons m ms ih =>
    have htail := ih (fun x hx => h x (List.mem_cons_of_mem _ hx)) (m :: done)
    rw [List.reverse_cons, List.append_assoc]
    exact .cons (readsMember_member done (h m List.mem_cons_self)) htail

/-- **Members** are read back, in their order. -/
theorem members_memberChars {read : Reader Json} {ms : Members}
    (h : ∀ m ∈ ms, ∀ rest, Ends rest → read (spelled (chars m.2) ++ rest) = .ok (m.2, rest))
    (rest : Bytes) : members read (spelled (memberChars ms) ++ rest) = .ok (ms, rest) := by
  rw [members, fields_memberChars (readsMembers_member h []) rest]
  simp [bind, Except.bind, pure, Except.pure]

/-- **A value** is read back, if as many brackets may be open as it needs. -/
theorem value_chars {depth : Nat} {v : Json} (hv : Plain depth v) {rest : Bytes}
    (hrest : Ends rest) : value depth (spelled (chars v) ++ rest) = .ok (v, rest) := by
  induction hv generalizing rest with
  | string depth s => exact value_string depth s rest
  | integer depth whole => exact value_integer depth whole hrest
  | @object depth ms members ih =>
    have hread := members_memberChars (fun m hm rest hrest => ih m hm hrest) rest
    rw [chars, spelled_open, List.cons_append]
    simp [value, skipBlank_cons (b := 0x7b) (by decide), hread, bind, Except.bind, pure,
      Except.pure]

end Json

end AlertRelay
