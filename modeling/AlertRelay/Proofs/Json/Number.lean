/-
AlertRelay/Proofs/Json/Number.lean

Numbers: what is taken for one, and what is passed over as one.

Each part of the reader of numbers takes a part of a number from the head of a text and stops at
the first byte that does not continue it.  So it would have taken the same before any other text
that does not continue it, to the same value: that is what `Takes` says, and it is all that is ever
needed of these functions.  Which value it is matters for whole numbers alone, and these are read
only from their one spelling (`number_eq_integer`).

The reader that passes over a number has no value to keep and takes the same texts.
-/
import AlertRelay.Proofs.Json.Grammar
import AlertRelay.Proofs.Faults

namespace AlertRelay

namespace Json

/-! ### Digits -/

theorem startsWithDigit_eq_false_iff {s : Bytes} :
    startsWithDigit s = false ↔ ∀ b tail, s = b :: tail → digit? b = none := by
  cases s with
  | nil => simp [startsWithDigit]
  | cons b tail => simp [startsWithDigit]

theorem digits_nil : Digits [] := by
  simp [Digits]

theorem Digits.cons {b : UInt8} {t : Bytes} (hb : (digit? b).isSome = true) (ht : Digits t) :
    Digits (b :: t) :=
  List.forall_mem_cons.2 ⟨hb, ht⟩

theorem Digits.append {t u : Bytes} (ht : Digits t) (hu : Digits u) : Digits (t ++ u) :=
  List.forall_mem_append.2 ⟨ht, hu⟩

/-- **Digits are dropped** to the last one. -/
theorem dropDigits_append {t rest : Bytes} (ht : Digits t) (hrest : startsWithDigit rest = false)
    (count : Nat) : dropDigits count (t ++ rest) = (count + t.length, rest) := by
  induction t generalizing count with
  | nil =>
    cases rest with
    | nil => rfl
    | cons b rest =>
      have hb := startsWithDigit_eq_false_iff.1 hrest b rest rfl
      simp [dropDigits, hb]
  | cons b t ih =>
    obtain ⟨hb, ht⟩ := List.forall_mem_cons.1 ht
    obtain ⟨d, hd⟩ := Option.isSome_iff_exists.1 hb
    rw [List.cons_append, dropDigits]
    simp only [hd, ih ht, List.length_cons]
    rw [Nat.add_assoc, Nat.add_comm 1]

/-- What stands before the rest that is left has been dropped. -/
theorem exists_of_dropDigits (count : Nat) (s : Bytes) :
    ∃ t, Digits t ∧ s = t ++ (dropDigits count s).2 ∧
      (dropDigits count s).1 = count + t.length ∧
      startsWithDigit (dropDigits count s).2 = false := by
  induction s generalizing count with
  | nil => exact ⟨[], digits_nil, rfl, rfl, rfl⟩
  | cons b s ih =>
    cases hd : digit? b with
    | none =>
      have hstop : dropDigits count (b :: s) = (count, b :: s) := by simp [dropDigits, hd]
      rw [hstop]
      exact ⟨[], digits_nil, rfl, rfl, by simp [startsWithDigit, hd]⟩
    | some d =>
      have hgo : dropDigits count (b :: s) = dropDigits (count + 1) s := by simp [dropDigits, hd]
      obtain ⟨t, ht, hs, hcount, hstop⟩ := ih (count + 1)
      rw [hgo]
      refine ⟨b :: t, ht.cons (by simp [hd]), ?_, ?_, hstop⟩
      · rw [List.cons_append, ← hs]
      · rw [hcount, List.length_cons, Nat.add_assoc, Nat.add_comm 1]

/-- Before both texts digits are taken alike: both go on with one byte, or neither with a digit. -/
def StopsAlike (rest rest' : Bytes) : Prop :=
  (∃ b tail tail', rest = b :: tail ∧ rest' = b :: tail') ∨
    (startsWithDigit rest = false ∧ startsWithDigit rest' = false)

/-- What stands before the rest that is left has been taken, and would have been taken before
another text. -/
theorem exists_of_takeDigits (n count : Nat) (s : Bytes) :
    ∃ t, Digits t ∧ s = t ++ (takeDigits n count s).2.2 ∧
      (takeDigits n count s).2.1 = count + t.length ∧
      ∀ rest', StopsAlike (takeDigits n count s).2.2 rest' →
        takeDigits n count (t ++ rest') =
          ((takeDigits n count s).1, (takeDigits n count s).2.1, rest') := by
  induction s generalizing n count with
  | nil =>
    refine ⟨[], digits_nil, rfl, rfl, fun rest' hstop => ?_⟩
    obtain ⟨b, tail, tail', he, -⟩ | ⟨-, hrest'⟩ := hstop
    · cases he
    · cases rest' with
      | nil => rfl
      | cons b tail =>
        have hb := startsWithDigit_eq_false_iff.1 hrest' b tail rfl
        simp [takeDigits, hb]
  | cons b s ih =>
    cases hd : digit? b with
    | none =>
      have heq : takeDigits n count (b :: s) = (n, count, b :: s) := by simp [takeDigits, hd]
      rw [heq]
      refine ⟨[], digits_nil, rfl, rfl, fun rest' hstop => ?_⟩
      obtain ⟨c, tail, tail', he, rfl⟩ | ⟨-, hrest'⟩ := hstop
      · obtain ⟨rfl, -⟩ := List.cons.inj he
        simp [takeDigits, hd]
      · cases rest' with
        | nil => rfl
        | cons c tail =>
          have hc := startsWithDigit_eq_false_iff.1 hrest' c tail rfl
          simp [takeDigits, hc]
    | some d =>
      by_cases hfits : n * 10 + d < wordSize
      · have heq : takeDigits n count (b :: s) = takeDigits (n * 10 + d) (count + 1) s := by
          simp [takeDigits, hd, hfits]
        obtain ⟨t, ht, hs, hcount, hlater⟩ := ih (n * 10 + d) (count + 1)
        rw [heq]
        refine ⟨b :: t, ht.cons (by simp [hd]), ?_, ?_, fun rest' hstop => ?_⟩
        · rw [List.cons_append, ← hs]
        · rw [hcount, List.length_cons, Nat.add_assoc, Nat.add_comm 1]
        · rw [List.cons_append, takeDigits]
          simp only [hd, hfits, if_true]
          exact hlater rest' hstop
      · -- the digit does not fit, and that is seen from the digit alone
        have heq : takeDigits n count (b :: s) = (n, count, b :: s) := by
          simp [takeDigits, hd, hfits]
        rw [heq]
        refine ⟨[], digits_nil, rfl, rfl, fun rest' hstop => ?_⟩
        obtain ⟨c, tail, tail', he, rfl⟩ | ⟨hrest, -⟩ := hstop
        · obtain ⟨rfl, -⟩ := List.cons.inj he
          simp [takeDigits, hd, hfits]
        · have hnone := startsWithDigit_eq_false_iff.1 hrest b s rfl
          rw [hd] at hnone
          cases hnone

/-! ### Parts of a number -/

/-- A reader takes a text of some kind from the head, and would have taken it to the same value
before anything else that cannot continue a number. -/
def Takes {α : Type} (read : Reader α) (P : Bytes → Prop) : Prop :=
  ∀ s a rest, read s = .ok (a, rest) →
    ∃ t, P t ∧ s = t ++ rest ∧ ∀ rest', Ends rest' → read (t ++ rest') = .ok (a, rest')

theorem fraction_eq_ok {negative : Bool} {n : Nat} {e : Int} {s rest : Bytes} {a : Number}
    (h : fraction negative n e s = .ok (a, rest)) :
    rest = s ∧ ∀ s', fraction negative n e s' = .ok (a, s') := by
  unfold fraction at h
  split at h
  · cases h
  · rename_i x hx
    cases h
    exact ⟨rfl, fun s' => by simp [fraction, hx]⟩

theorem takes_exponentDigits (negative down : Bool) (n : Nat) (e : Int) (exp : Nat) :
    Takes (exponentDigits negative down n e exp) Digits := by
  intro s a rest h
  induction s generalizing exp with
  | nil =>
    rw [exponentDigits] at h
    obtain ⟨rfl, hvalue⟩ := fraction_eq_ok h
    refine ⟨[], digits_nil, rfl, fun rest' hends => ?_⟩
    cases rest' with
    | nil => exact h
    | cons b tail => simp [exponentDigits, hends.1, hvalue]
  | cons b s ih =>
    rw [exponentDigits] at h
    cases hd : digit? b with
    | none =>
      simp only [hd] at h
      obtain ⟨rfl, hvalue⟩ := fraction_eq_ok h
      refine ⟨[], digits_nil, rfl, fun rest' hends => ?_⟩
      cases rest' with
      | nil => simp [exponentDigits, hvalue]
      | cons c tail => simp [exponentDigits, hends.1, hvalue]
    | some d =>
      simp only [hd] at h
      split at h
      · rename_i hle
        obtain ⟨t, ht, hs, hlater⟩ := ih _ h
        refine ⟨b :: t, ht.cons (by simp [hd]), by rw [hs, List.cons_append], fun rest' hends => ?_⟩
        rw [List.cons_append, exponentDigits]
        simp only [hd, hle, if_true]
        exact hlater rest' hends
      · rename_i hle
        split at h
        · cases h
        · rename_i hzero
          -- the exponent cannot matter any more, so its other digits are dropped
          cases h
          obtain ⟨t, ht, hs, -, -⟩ := exists_of_dropDigits 0 s
          refine ⟨b :: t, ht.cons (by simp [hd]), by rw [List.cons_append, ← hs],
            fun rest' hends => ?_⟩
          rw [List.cons_append, exponentDigits]
          simp only [hd, hle, hzero, if_false, dropDigits_append ht hends.startsWithDigit]
          rfl

theorem takes_exponentTail (negative down : Bool) (n : Nat) (e : Int) :
    Takes (exponentTail negative down n e) fun t => t ≠ [] ∧ Digits t := by
  intro s a rest h
  cases s with
  | nil => cases h
  | cons b s =>
    rw [exponentTail] at h
    cases hd : digit? b with
    | none =>
      simp only [hd] at h
      cases h
    | some d =>
      simp only [hd] at h
      obtain ⟨t, ht, hs, hlater⟩ := takes_exponentDigits negative down n e d s a rest h
      refine ⟨b :: t, ⟨List.cons_ne_nil _ _, ht.cons (by simp [hd])⟩, by rw [hs, List.cons_append],
        fun rest' hends => ?_⟩
      rw [List.cons_append, exponentTail]
      simp only [hd]
      exact hlater rest' hends

/-- What follows the letter of an exponent: a sign, if there is one, and digits. -/
def SignedDigits (t : Bytes) : Prop :=
  ∃ s u, (s = [] ∨ s = [0x2b] ∨ s = [0x2d]) ∧ u ≠ [] ∧ Digits u ∧ t = s ++ u

theorem takes_exponentPart (negative : Bool) (n : Nat) (e : Int) :
    Takes (exponentPart negative n e) SignedDigits := by
  intro s a rest h
  unfold exponentPart at h
  split at h
  · rename_i tail
    obtain ⟨t, ⟨hne, ht⟩, rfl, hlater⟩ := takes_exponentTail negative false n e tail a rest h
    exact ⟨0x2b :: t, ⟨[0x2b], t, .inr (.inl rfl), hne, ht, rfl⟩, rfl, hlater⟩
  · rename_i tail
    obtain ⟨t, ⟨hne, ht⟩, rfl, hlater⟩ := takes_exponentTail negative true n e tail a rest h
    exact ⟨0x2d :: t, ⟨[0x2d], t, .inr (.inr rfl), hne, ht, rfl⟩, rfl, hlater⟩
  · obtain ⟨t, ⟨hne, ht⟩, rfl, hlater⟩ := takes_exponentTail negative false n e s a rest h
    refine ⟨t, ⟨[], t, .inl rfl, hne, ht, rfl⟩, rfl, fun rest' hends => ?_⟩
    -- a digit is no sign
    obtain ⟨b, u, rfl⟩ := List.exists_cons_of_ne_nil hne
    have hb := ht b List.mem_cons_self
    rw [← hlater rest' hends]
    unfold exponentPart
    split
    · rename_i heq
      rw [(List.cons.inj heq).1] at hb
      cases hb
    · rename_i heq
      rw [(List.cons.inj heq).1] at hb
      cases hb
    · rfl

/-- The letter of an exponent comes next, or it does not. -/
theorem exponentLetter?_cases (s : Bytes) :
    (exponentLetter? s = none ∧ ∀ b tail, s = b :: tail → b ≠ 0x65 ∧ b ≠ 0x45) ∨
      ∃ b tail, (b = 0x65 ∨ b = 0x45) ∧ s = b :: tail ∧
        ∀ tail', exponentLetter? (b :: tail') = some tail' := by
  unfold exponentLetter?
  split
  · rename_i tail
    exact .inr ⟨0x65, tail, .inl rfl, rfl, fun tail' => rfl⟩
  · rename_i tail
    exact .inr ⟨0x45, tail, .inr rfl, rfl, fun tail' => rfl⟩
  · rename_i h₁ h₂
    refine .inl ⟨rfl, ?_⟩
    rintro b tail rfl
    exact ⟨fun he => h₁ tail (by rw [he]), fun he => h₂ tail (by rw [he])⟩

theorem takes_afterDigits (negative : Bool) (n : Nat) (e : Int) :
    Takes (afterDigits negative n e) ExponentPart := by
  intro s a rest h
  unfold afterDigits at h
  rcases exponentLetter?_cases s with ⟨hnone, -⟩ | ⟨b, tail, hb, rfl, hsome⟩
  · simp only [hnone] at h
    obtain ⟨rfl, hvalue⟩ := fraction_eq_ok h
    refine ⟨[], .absent, rfl, fun rest' hends => ?_⟩
    simp [afterDigits, hends.exponentLetter?, hvalue]
  · simp only [hsome] at h
    obtain ⟨_, ⟨s, u, hsign, hne, hu, rfl⟩, rfl, hlater⟩ := takes_exponentPart _ _ _ _ _ _ h
    refine ⟨b :: (s ++ u), .digits hb hsign hne hu, rfl, fun rest' hends => ?_⟩
    rw [afterDigits, List.cons_append]
    simp only [hsome]
    exact hlater rest' hends

/-- A part that is no digit is before anything that does not continue a number. -/
theorem ExponentPart.startsWithDigit_append {t rest : Bytes} (ht : ExponentPart t)
    (hrest : Ends rest) : startsWithDigit (t ++ rest) = false := by
  cases ht with
  | absent => exact hrest.startsWithDigit
  | digits letter _ _ _ => rcases letter with rfl | rfl <;> rfl

/-- What follows the point: digits, and an exponent if there is one. -/
def AfterPoint (t : Bytes) : Prop :=
  ∃ u e, u ≠ [] ∧ Digits u ∧ ExponentPart e ∧ t = u ++ e

theorem takes_decimals (negative : Bool) (n : Nat) (e : Int) :
    Takes (decimals negative n e) AfterPoint := by
  intro s a rest h
  obtain ⟨t, ht, hs, hcount, htake⟩ := exists_of_takeDigits n 0 s
  unfold decimals at h
  generalize hrun : takeDigits n 0 s = taken at h hs hcount htake
  obtain ⟨n', count, tail⟩ := taken
  simp only at h hs hcount htake
  by_cases hdigit : startsWithDigit tail = true
  · -- the digits that do not fit are dropped, and there is at least one
    rw [if_pos hdigit] at h
    obtain ⟨u, hu, htail, -, hstop⟩ := exists_of_dropDigits 0 tail
    obtain ⟨x, hx, hdrop, hlater⟩ := takes_afterDigits _ _ _ _ _ _ h
    rw [hdrop] at htail hstop
    have hne : u ≠ [] := by
      rintro rfl
      rw [htail, List.nil_append, hstop] at hdigit
      cases hdigit
    refine ⟨(t ++ u) ++ x, ⟨t ++ u, x, by simp [hne], ht.append hu, hx, rfl⟩, ?_,
      fun rest' hends => ?_⟩
    · rw [hs, htail]
      simp
    · obtain ⟨b, u, rfl⟩ := List.exists_cons_of_ne_nil hne
      have hstops : StopsAlike tail ((b :: u) ++ (x ++ rest')) :=
        .inl ⟨b, u ++ (x ++ rest), u ++ (x ++ rest'), htail, rfl⟩
      have hb : startsWithDigit ((b :: u) ++ (x ++ rest')) = true := hu b List.mem_cons_self
      have hx' := hx.startsWithDigit_append hends
      rw [List.append_assoc, List.append_assoc, decimals, htake _ hstops]
      simp only [hb, if_true, dropDigits_append hu hx', hlater rest' hends]
  · rw [if_neg hdigit] at h
    by_cases hzero : count = 0
    · rw [if_pos hzero] at h
      cases tail <;> cases h
    · rw [if_neg hzero] at h
      obtain ⟨x, hx, htail, hlater⟩ := takes_afterDigits _ _ _ _ _ _ h
      have hne : t ≠ [] := by
        rintro rfl
        exact hzero hcount
      refine ⟨t ++ x, ⟨t, x, hne, ht, hx, rfl⟩, by rw [hs, htail, List.append_assoc],
        fun rest' hends => ?_⟩
      have hx' := hx.startsWithDigit_append hends
      have hstops : StopsAlike tail (x ++ rest') := .inr ⟨by simpa using hdigit, hx'⟩
      rw [List.append_assoc, decimals, htake _ hstops]
      simp only [hx', Bool.false_eq_true, if_false, hzero, hlater rest' hends]

/-- What follows the whole part of a number. -/
def AfterWhole (t : Bytes) : Prop :=
  ∃ p e, PointPart p ∧ ExponentPart e ∧ t = p ++ e

theorem AfterPoint.afterWhole {t : Bytes} (ht : AfterPoint t) : AfterWhole (0x2e :: t) := by
  obtain ⟨u, e, hne, hu, he, rfl⟩ := ht
  exact ⟨0x2e :: u, e, .digits hne hu, he, rfl⟩

theorem ExponentPart.afterWhole {t : Bytes} (ht : ExponentPart t) : AfterWhole t :=
  ⟨[], t, .absent, ht, rfl⟩

theorem AfterWhole.startsWithDigit_append {t rest : Bytes} (ht : AfterWhole t)
    (hrest : Ends rest) : startsWithDigit (t ++ rest) = false := by
  obtain ⟨p, e, hp, he, rfl⟩ := ht
  cases hp with
  | absent => exact he.startsWithDigit_append hrest
  | digits _ _ => rfl

/-- A point, the letter of an exponent, or neither comes next. -/
theorem takes_afterWhole (negative : Bool) (n : Nat) :
    Takes (afterWhole negative n) AfterWhole := by
  intro s a rest h
  by_cases hpoint : ∃ tail, s = 0x2e :: tail
  · obtain ⟨tail, rfl⟩ := hpoint
    obtain ⟨t, ht, rfl, hlater⟩ := takes_decimals negative n 0 tail a rest h
    exact ⟨0x2e :: t, ht.afterWhole, rfl, hlater⟩
  · have hs : ∀ {letter : Option Bytes}, exponentLetter? s = letter → afterWhole negative n s =
        letter.elim
          (if !negative then .ok (.integer n, s)
            else if n = 0 || Nat.pow 2 63 < n then .ok (.float (.ofNat true n), s)
            else .ok (.integer (-n), s))
          (exponentPart negative n 0) := by
      rintro letter rfl
      unfold afterWhole
      split
      · rename_i tail
        exact absurd ⟨tail, rfl⟩ hpoint
      · cases exponentLetter? s <;> rfl
    rcases exponentLetter?_cases s with ⟨hnone, -⟩ | ⟨b, tail, hb, rfl, hsome⟩
    · have hnothing : rest = s ∧ ∀ rest', Ends rest' → afterWhole negative n rest' =
          .ok (a, rest') := by
        rw [hs hnone, Option.elim_none] at h
        refine ⟨?_, fun rest' hends => ?_⟩
        · split_ifs at h <;> cases h <;> rfl
        · rw [afterWhole_of_ends negative n hends]
          split_ifs at h ⊢ <;> cases h <;> rfl
      obtain ⟨rfl, hlater⟩ := hnothing
      exact ⟨[], ExponentPart.absent.afterWhole, rfl, hlater⟩
    · rw [hs (hsome tail), Option.elim_some] at h
      obtain ⟨_, ⟨s, u, hsign, hne, hu, rfl⟩, rfl, hlater⟩ := takes_exponentPart _ _ _ _ _ _ h
      have he : ExponentPart (b :: (s ++ u)) := .digits hb hsign hne hu
      refine ⟨b :: (s ++ u), he.afterWhole, rfl, fun rest' hends => ?_⟩
      have hb' : b ≠ 0x2e := by rcases hb with rfl | rfl <;> decide
      rw [← hlater rest' hends, List.cons_append]
      unfold afterWhole
      split
      · rename_i heq
        exact absurd (List.cons.inj heq).1 hb'
      · simp only [hsome]

/-! ### Numbers -/

theorem digit?_eq_zero_iff {b : UInt8} : digit? b = some 0 ↔ b = 0x30 := by
  constructor
  · intro h
    unfold digit? at h
    split at h
    · rename_i hrange
      simp only [Bool.and_eq_true, decide_eq_true_eq, UInt8.le_iff_toNat_le,
        UInt8.reduceToNat] at hrange
      have := Option.some.inj h
      refine UInt8.toNat_inj.1 ?_
      show b.toNat = 0x30
      omega
    · cases h
  · rintro rfl
    decide

/-- What follows a whole part with more digits than fit. -/
def afterDropped (negative : Bool) (n more : Nat) (s : Bytes) : Except Fault (Number × Bytes) :=
  match s with
  | 0x2e :: after => decimals negative n more after
  | _ => afterDigits negative n more s

/-- The number that begins with a digit other than zero. -/
theorem unsigned_digit (negative : Bool) {b : UInt8} {d : Nat} (hd : digit? b = some d)
    (hne : b ≠ 0x30) (s : Bytes) :
    unsigned negative (b :: s) =
      if startsWithDigit (takeDigits d 1 s).2.2 then
        afterDropped negative (takeDigits d 1 s).1 (dropDigits 0 (takeDigits d 1 s).2.2).1
          (dropDigits 0 (takeDigits d 1 s).2.2).2
      else afterWhole negative (takeDigits d 1 s).1 (takeDigits d 1 s).2.2 := by
  cases d with
  | zero => exact absurd (digit?_eq_zero_iff.1 hd) hne
  | succ d =>
    rw [unsigned]
    simp only [hd]
    rfl

theorem unsigned_zero (negative : Bool) {s : Bytes} (hs : startsWithDigit s = false) :
    unsigned negative (0x30 :: s) = afterWhole negative 0 s := by
  rw [unsigned]
  simp [digit?_eq_zero_iff.2, hs]

/-- Neither an exponent nor what ends a number begins with a point. -/
theorem ExponentPart.append_ne_point {t rest : Bytes} (ht : ExponentPart t) (hrest : Ends rest)
    (tail : Bytes) : t ++ rest ≠ 0x2e :: tail := by
  intro heq
  cases ht with
  | absent =>
    rw [List.nil_append] at heq
    rw [heq] at hrest
    exact absurd rfl hrest.2.1
  | digits letter _ _ _ =>
    rw [List.cons_append] at heq
    rw [(List.cons.inj heq).1] at letter
    rcases letter with hl | hl <;> cases hl

/-- A point or the letter of an exponent follows digits that do not fit. -/
theorem takes_afterDropped (negative : Bool) (n more : Nat) :
    Takes (afterDropped negative n more) AfterWhole := by
  intro s a rest h
  by_cases hpoint : ∃ after, s = 0x2e :: after
  · obtain ⟨after, rfl⟩ := hpoint
    obtain ⟨t, ht, rfl, hlater⟩ := takes_decimals negative n more after a rest h
    exact ⟨0x2e :: t, ht.afterWhole, rfl, hlater⟩
  · have hs : afterDigits negative n more s = .ok (a, rest) := by
      rw [← h]
      unfold afterDropped
      split
      · rename_i after
        exact absurd ⟨after, rfl⟩ hpoint
      · rfl
    obtain ⟨t, ht, rfl, hlater⟩ := takes_afterDigits negative n more s a rest hs
    refine ⟨t, ht.afterWhole, rfl, fun rest' hends => ?_⟩
    rw [← hlater rest' hends]
    unfold afterDropped
    split
    · rename_i after heq
      exact absurd heq (ht.append_ne_point hends after)
    · rfl

/-- A zero stands alone before what follows the whole part. -/
theorem takes_zero {negative : Bool} {s rest : Bytes} {a : Number}
    (h : unsigned negative (0x30 :: s) = .ok (a, rest)) :
    ∃ t, Unsigned t ∧ 0x30 :: s = t ++ rest ∧
      ∀ rest', Ends rest' → unsigned negative (t ++ rest') = .ok (a, rest') := by
  cases hdigit : startsWithDigit s with
  | true =>
    rw [unsigned] at h
    simp [digit?_eq_zero_iff.2, hdigit] at h
  | false =>
    rw [unsigned_zero negative hdigit] at h
    obtain ⟨_, hw, rfl, hlater⟩ := takes_afterWhole _ _ _ _ _ h
    obtain ⟨p, e, hp, he, rfl⟩ := id hw
    refine ⟨[0x30] ++ (p ++ e), .mk .zero hp he, rfl, fun rest' hends => ?_⟩
    rw [List.append_assoc, List.singleton_append,
      unsigned_zero negative (hw.startsWithDigit_append hends)]
    exact hlater rest' hends

/-- Any other whole part is taken digit by digit. -/
theorem takes_digits {negative : Bool} {b : UInt8} {d : Nat} (hd : digit? b = some d)
    (hzero : b ≠ 0x30) {s rest : Bytes} {a : Number}
    (h : unsigned negative (b :: s) = .ok (a, rest)) :
    ∃ t, Unsigned t ∧ b :: s = t ++ rest ∧
      ∀ rest', Ends rest' → unsigned negative (t ++ rest') = .ok (a, rest') := by
  rw [unsigned_digit negative hd hzero] at h
  obtain ⟨t, ht, hs, -, htake⟩ := exists_of_takeDigits d 1 s
  generalize takeDigits d 1 s = taken at h hs htake
  obtain ⟨n, count, tail⟩ := taken
  simp only at h hs htake
  have hb : (digit? b).isSome = true := by simp [hd]
  by_cases hdigit : startsWithDigit tail = true
  · -- the digits that do not fit are dropped, and there is at least one
    rw [if_pos hdigit] at h
    obtain ⟨u, hu, htail, -, hstop⟩ := exists_of_dropDigits 0 tail
    generalize hdrop : dropDigits 0 tail = dropped at h htail hstop
    obtain ⟨more, left⟩ := dropped
    simp only at h htail hstop
    obtain ⟨_, hw, rfl, hlater⟩ := takes_afterDropped negative n more left a rest h
    obtain ⟨p, e, hp, he, rfl⟩ := id hw
    obtain ⟨c, v, rfl⟩ : ∃ c v, u = c :: v := by
      refine List.exists_cons_of_ne_nil ?_
      rintro rfl
      rw [htail, List.nil_append, hstop] at hdigit
      cases hdigit
    refine ⟨(b :: (t ++ c :: v)) ++ (p ++ e), .mk (.digits hb hzero (ht.append hu)) hp he, ?_,
      fun rest' hends => ?_⟩
    · rw [hs, htail]
      simp
    · have hfirst : startsWithDigit ((c :: v) ++ ((p ++ e) ++ rest')) = true :=
        hu c List.mem_cons_self
      have hstops : StopsAlike tail ((c :: v) ++ ((p ++ e) ++ rest')) := .inl ⟨c, _, _, htail, rfl⟩
      have hmore : more = 0 + (c :: v).length := by
        have := dropDigits_append hu hstop 0
        rw [← htail, hdrop] at this
        exact (Prod.mk.inj this).1
      have htext : (b :: (t ++ c :: v)) ++ (p ++ e) ++ rest' =
          b :: (t ++ ((c :: v) ++ ((p ++ e) ++ rest'))) := by simp
      rw [htext, unsigned_digit negative hd hzero, htake _ hstops]
      simp only [hfirst, if_true,
        dropDigits_append hu (hw.startsWithDigit_append hends), ← hmore]
      exact hlater rest' hends
  · rw [if_neg hdigit] at h
    obtain ⟨_, hw, rfl, hlater⟩ := takes_afterWhole _ _ _ _ _ h
    obtain ⟨p, e, hp, he, rfl⟩ := id hw
    refine ⟨(b :: t) ++ (p ++ e), .mk (.digits hb hzero ht) hp he, by rw [hs]; simp,
      fun rest' hends => ?_⟩
    have hstop := hw.startsWithDigit_append hends
    have hstops : StopsAlike ((p ++ e) ++ rest) ((p ++ e) ++ rest') :=
      .inr ⟨by simpa using hdigit, hstop⟩
    have htext : (b :: t) ++ (p ++ e) ++ rest' = b :: (t ++ ((p ++ e) ++ rest')) := by simp
    rw [htext, unsigned_digit negative hd hzero, htake _ hstops]
    simp only [hstop, Bool.false_eq_true, if_false]
    exact hlater rest' hends

theorem takes_unsigned (negative : Bool) : Takes (unsigned negative) Unsigned := by
  intro s a rest h
  cases s with
  | nil => cases h
  | cons b s =>
    cases hd : digit? b with
    | none =>
      rw [unsigned] at h
      simp only [hd] at h
      cases h
    | some d =>
      by_cases hzero : b = 0x30
      · subst hzero
        exact takes_zero h
      · exact takes_digits hd hzero h

/-- A number without its sign begins with a digit. -/
theorem Unsigned.eq_cons {t : Bytes} (ht : Unsigned t) :
    ∃ b u, t = b :: u ∧ (digit? b).isSome = true := by
  cases ht with
  | mk whole _ _ =>
    cases whole with
    | zero => exact ⟨0x30, _, rfl, by decide⟩
    | digits first _ _ => exact ⟨_, _, rfl, first⟩

/-- **A number** is taken to its end. -/
theorem takes_number : Takes number IsNumber := by
  intro s a rest h
  unfold number at h
  split at h
  · obtain ⟨t, ht, rfl, hlater⟩ := takes_unsigned _ _ _ _ h
    exact ⟨0x2d :: t, .negative ht, rfl, hlater⟩
  · obtain ⟨t, ht, rfl, hlater⟩ := takes_unsigned _ _ _ _ h
    refine ⟨t, .unsigned ht, rfl, fun rest' hends => ?_⟩
    -- a digit is no minus
    obtain ⟨b, u, rfl, hb⟩ := ht.eq_cons
    rw [← hlater rest' hends]
    unfold number
    split
    · rename_i heq
      rw [(List.cons.inj heq).1] at hb
      cases hb
    · rfl

/-- A number begins with a minus or a digit. -/
theorem IsNumber.eq_cons {t : Bytes} (ht : IsNumber t) :
    ∃ b u, t = b :: u ∧ (b = 0x2d ∨ (digit? b).isSome = true) := by
  cases ht with
  | unsigned number =>
    obtain ⟨b, u, rfl, hb⟩ := number.eq_cons
    exact ⟨b, u, rfl, .inr hb⟩
  | negative number => exact ⟨0x2d, _, rfl, .inl rfl⟩

/-! ### Whole numbers -/

/-- A reader never answers a whole number. -/
def Fractional (read : Reader Number) : Prop :=
  ∀ s m rest, read s ≠ .ok (.integer m, rest)

theorem fractional_fraction (negative : Bool) (n : Nat) (e : Int) :
    Fractional (fraction negative n e) := by
  intro s m rest h
  unfold fraction at h
  split at h <;> cases h

theorem fractional_exponentDigits (negative down : Bool) (n : Nat) (e : Int) (exp : Nat) :
    Fractional (exponentDigits negative down n e exp) := by
  intro s m rest h
  induction s generalizing exp with
  | nil => exact fractional_fraction _ _ _ _ _ _ h
  | cons b s ih =>
    rw [exponentDigits] at h
    split at h
    · exact fractional_fraction _ _ _ _ _ _ h
    · split_ifs at h
      · exact ih _ h
      · cases h

theorem fractional_exponentTail (negative down : Bool) (n : Nat) (e : Int) :
    Fractional (exponentTail negative down n e) := by
  intro s m rest h
  cases s with
  | nil => cases h
  | cons b s =>
    rw [exponentTail] at h
    split at h
    · cases h
    · exact fractional_exponentDigits _ _ _ _ _ _ _ _ h

theorem fractional_exponentPart (negative : Bool) (n : Nat) (e : Int) :
    Fractional (exponentPart negative n e) := by
  intro s m rest h
  unfold exponentPart at h
  split at h <;> exact fractional_exponentTail _ _ _ _ _ _ _ h

theorem fractional_afterDigits (negative : Bool) (n : Nat) (e : Int) :
    Fractional (afterDigits negative n e) := by
  intro s m rest h
  unfold afterDigits at h
  split at h
  · exact fractional_exponentPart _ _ _ _ _ _ h
  · exact fractional_fraction _ _ _ _ _ _ h

theorem fractional_decimals (negative : Bool) (n : Nat) (e : Int) :
    Fractional (decimals negative n e) := by
  intro s m rest h
  unfold decimals at h
  generalize takeDigits n 0 s = taken at h
  obtain ⟨n', count, tail⟩ := taken
  simp only at h
  split_ifs at h
  · exact fractional_afterDigits _ _ _ _ _ _ h
  · cases tail <;> cases h
  · exact fractional_afterDigits _ _ _ _ _ _ h

theorem fractional_afterDropped (negative : Bool) (n more : Nat) :
    Fractional (afterDropped negative n more) := by
  intro s m rest h
  unfold afterDropped at h
  split at h
  · exact fractional_decimals _ _ _ _ _ _ h
  · exact fractional_afterDigits _ _ _ _ _ _ h

/-- The whole number that a sign and digits stand for. -/
def signed (negative : Bool) (n : Nat) : Int :=
  if negative then -n else n

/-- The number is whole as it stands, zero with a sign excepted. -/
def StaysWhole (negative : Bool) (n : Nat) : Prop :=
  negative = true → n ≠ 0 ∧ n ≤ Nat.pow 2 63

theorem afterWhole_eq_integer {negative : Bool} {n : Nat} {s rest : Bytes} {m : Int}
    (h : afterWhole negative n s = .ok (.integer m, rest)) :
    rest = s ∧ m = signed negative n ∧ StaysWhole negative n := by
  unfold afterWhole at h
  split at h
  · exact absurd h (fractional_decimals _ _ _ _ _ _)
  · split at h
    · exact absurd h (fractional_exponentPart _ _ _ _ _ _)
    · unfold signed StaysWhole
      cases negative with
      | false =>
        cases h
        exact ⟨rfl, rfl, by simp⟩
      | true =>
        simp only [Bool.not_true, Bool.false_eq_true, if_false, Bool.or_eq_true,
          decide_eq_true_eq] at h
        split_ifs at h with hout
        · cases h
        · cases h
          exact ⟨rfl, by simp, fun _ => by omega⟩

/-- A digit is the spelling of its value. -/
theorem spelled_digitChar {b : UInt8} {d : Nat} (h : digit? b = some d) :
    d < 10 ∧ spelled [Nat.digitChar d] = [b] := by
  unfold digit? at h
  split at h
  · rename_i hrange
    simp only [Bool.and_eq_true, decide_eq_true_eq, UInt8.le_iff_toNat_le,
      UInt8.reduceToNat] at hrange
    have hd := Option.some.inj h
    have hsmall : d < 10 := by omega
    have hall : ∀ d < 10, spelled [Nat.digitChar d] = [UInt8.ofNat (0x30 + d)] := by decide
    refine ⟨hsmall, ?_⟩
    rw [hall d hsmall]
    have hb : 0x30 + d = b.toNat := by omega
    rw [hb, UInt8.ofNat_toNat]
  · cases h

/-- One more digit. -/
theorem spelled_toDigits_append {n : Nat} (hn : 0 < n) {b : UInt8} {d : Nat}
    (h : digit? b = some d) :
    spelled (Nat.toDigits 10 (n * 10 + d)) = spelled (Nat.toDigits 10 n) ++ [b] := by
  obtain ⟨hd, hb⟩ := spelled_digitChar h
  have hdiv : (n * 10 + d) / 10 = n := by omega
  have hmod : (n * 10 + d) % 10 = d := by omega
  rw [Nat.toDigits_of_base_le (by omega) (by omega), hdiv, hmod, spelled_append, hb]

/-- **Digits that are taken** spell the number they are taken for. -/
theorem spelled_takeDigits {n : Nat} (hn : 0 < n) (count : Nat) (s : Bytes) :
    spelled (Nat.toDigits 10 n) ++ s =
        spelled (Nat.toDigits 10 (takeDigits n count s).1) ++ (takeDigits n count s).2.2 ∧
      (n < wordSize → (takeDigits n count s).1 < wordSize) := by
  induction s generalizing n count with
  | nil => exact ⟨rfl, id⟩
  | cons b s ih =>
    rw [takeDigits]
    cases hd : digit? b with
    | none => exact ⟨rfl, id⟩
    | some d =>
      simp only
      split_ifs with hfits
      · obtain ⟨hspelled, hbound⟩ := ih (n := n * 10 + d) (by omega) (count + 1)
        refine ⟨?_, fun _ => hbound hfits⟩
        rw [← hspelled, spelled_toDigits_append hn hd, List.append_assoc, List.singleton_append]
      · exact ⟨rfl, id⟩

theorem unsigned_eq_integer {negative : Bool} {s rest : Bytes} {m : Int}
    (h : unsigned negative s = .ok (.integer m, rest)) :
    ∃ n < wordSize, s = spelled (Nat.toDigits 10 n) ++ rest ∧ m = signed negative n ∧
      StaysWhole negative n := by
  cases s with
  | nil => cases h
  | cons b s =>
    cases hd : digit? b with
    | none =>
      rw [unsigned] at h
      simp only [hd] at h
      cases h
    | some d =>
      by_cases hzero : b = 0x30
      · subst hzero
        cases hdigit : startsWithDigit s with
        | true =>
          rw [unsigned] at h
          simp [digit?_eq_zero_iff.2, hdigit] at h
        | false =>
          rw [unsigned_zero negative hdigit] at h
          obtain ⟨rfl, hm, hstays⟩ := afterWhole_eq_integer h
          have hspelled : spelled (Nat.toDigits 10 0) = [0x30] := by decide
          exact ⟨0, by decide, by rw [hspelled, List.singleton_append], hm, hstays⟩
      · rw [unsigned_digit negative hd hzero] at h
        obtain ⟨hsmall, hb⟩ := spelled_digitChar hd
        have hpos : 0 < d := Nat.pos_of_ne_zero fun h => hzero (digit?_eq_zero_iff.1 (h ▸ hd))
        obtain ⟨hspelled, hbound⟩ := spelled_takeDigits hpos 1 s
        rw [Nat.toDigits_of_lt_base hsmall, hb] at hspelled
        split_ifs at h
        · exact absurd h (fractional_afterDropped _ _ _ _ _ _)
        · obtain ⟨hrest, hm, hstays⟩ := afterWhole_eq_integer h
          refine ⟨_, hbound (Nat.lt_trans hsmall (by decide)), ?_, hm, hstays⟩
          rw [hrest, ← hspelled, List.singleton_append]

/-- **A whole number** has been read from its one spelling. -/
theorem number_eq_integer {s rest : Bytes} {m : Int}
    (h : number s = .ok (.integer m, rest)) :
    s = spelled (toString m).toList ++ rest ∧ IsWhole m := by
  have hword : wordSize = 2 * Nat.pow 2 63 := by decide
  unfold number at h
  split at h
  · obtain ⟨n, -, rfl, rfl, hstays⟩ := unsigned_eq_integer h
    obtain ⟨hne, hle⟩ := hstays rfl
    refine ⟨?_, ?_, ?_⟩
    · rw [signed, if_pos rfl, toList_toString_neg (Nat.pos_of_ne_zero hne), spelled_minus,
        List.cons_append]
    · rw [signed, if_pos rfl]
      omega
    · rw [signed, if_pos rfl]
      omega
  · obtain ⟨n, hn, rfl, rfl, -⟩ := unsigned_eq_integer h
    refine ⟨?_, ?_, ?_⟩
    · rw [signed, if_neg (by simp), toList_toString_natCast]
    · rw [signed, if_neg (by simp)]
      omega
    · rw [signed, if_neg (by simp)]
      omega

/-! ### Numbers that nobody reads -/

/-- A reader that keeps nothing passes over a text of some kind, whatever ends it. -/
def Passes (pass : Bytes → Except Fault Bytes) (P : Bytes → Prop) : Prop :=
  (∀ s rest, pass s = .ok rest → ∃ t, P t ∧ s = t ++ rest) ∧
    ∀ t rest, P t → Ends rest → pass (t ++ rest) = .ok rest

/-- What follows the sign of an exponent that nobody reads. -/
def skipDigits : Bytes → Except Fault Bytes
  | [] => .error (.taken .invalidNumber [])
  | b :: tail =>
    if (digit? b).isSome then .ok (dropDigits 0 tail).2 else .error (.taken .invalidNumber tail)

theorem passes_skipDigits : Passes skipDigits fun t => t ≠ [] ∧ Digits t := by
  constructor
  · intro s rest h
    cases s with
    | nil => cases h
    | cons b s =>
      rw [skipDigits] at h
      split_ifs at h with hb
      cases h
      obtain ⟨t, ht, hs, -, -⟩ := exists_of_dropDigits 0 s
      exact ⟨b :: t, ⟨List.cons_ne_nil _ _, ht.cons hb⟩, by rw [List.cons_append, ← hs]⟩
  · rintro t rest ⟨hne, ht⟩ hends
    obtain ⟨b, u, rfl⟩ := List.exists_cons_of_ne_nil hne
    obtain ⟨hb, hu⟩ := List.forall_mem_cons.1 ht
    rw [List.cons_append, skipDigits, if_pos hb, dropDigits_append hu hends.startsWithDigit]

theorem passes_skipExponent : Passes skipExponent SignedDigits := by
  constructor
  · intro s rest h
    -- the sign is set aside
    have hsign : ∃ sign u, (sign = [] ∨ sign = [0x2b] ∨ sign = [0x2d]) ∧ s = sign ++ u ∧
        skipDigits u = .ok rest := by
      unfold skipExponent at h
      split at h
      · rename_i tail
        exact ⟨[0x2b], tail, .inr (.inl rfl), rfl, h⟩
      · rename_i tail
        exact ⟨[0x2d], tail, .inr (.inr rfl), rfl, h⟩
      · exact ⟨[], s, .inl rfl, rfl, h⟩
    obtain ⟨sign, u, hcases, rfl, hdigits⟩ := hsign
    obtain ⟨t, ⟨hne, ht⟩, rfl⟩ := passes_skipDigits.1 _ _ hdigits
    exact ⟨sign ++ t, ⟨sign, t, hcases, hne, ht, rfl⟩, by rw [List.append_assoc]⟩
  · rintro _ rest ⟨sign, u, hcases, hne, hu, rfl⟩ hends
    have hdigits := passes_skipDigits.2 u rest ⟨hne, hu⟩ hends
    rcases hcases with rfl | rfl | rfl
    · obtain ⟨b, v, rfl⟩ := List.exists_cons_of_ne_nil hne
      have hb := hu b List.mem_cons_self
      rw [List.nil_append, ← hdigits, List.cons_append]
      unfold skipExponent
      split
      · rename_i heq
        rw [(List.cons.inj heq).1] at hb
        exact absurd hb (by decide)
      · rename_i heq
        rw [(List.cons.inj heq).1] at hb
        exact absurd hb (by decide)
      · rfl
    · exact hdigits
    · exact hdigits

/-- What follows the digits of a number that nobody reads. -/
def skipLetter (s : Bytes) : Except Fault Bytes :=
  match exponentLetter? s with
  | some after => skipExponent after
  | none => .ok s

theorem passes_skipLetter : Passes skipLetter ExponentPart := by
  constructor
  · intro s rest h
    unfold skipLetter at h
    rcases exponentLetter?_cases s with ⟨hnone, -⟩ | ⟨b, after, hb, rfl, hsome⟩
    · simp only [hnone] at h
      cases h
      exact ⟨[], .absent, rfl⟩
    · simp only [hsome] at h
      obtain ⟨_, ⟨sign, v, hsign, hv, hdigits, rfl⟩, rfl⟩ := passes_skipExponent.1 _ _ h
      exact ⟨b :: (sign ++ v), .digits hb hsign hv hdigits, rfl⟩
  · intro t rest ht hends
    cases ht with
    | absent => simp [skipLetter, hends.exponentLetter?]
    | @digits b sign u letter hsign hne hdigits =>
      have hpass := passes_skipExponent.2 _ rest ⟨sign, u, hsign, hne, hdigits, rfl⟩ hends
      rcases letter with rfl | rfl <;> simpa [skipLetter, exponentLetter?] using hpass

theorem passes_skipFraction : Passes skipFraction AfterWhole := by
  constructor
  · intro s rest h
    unfold skipFraction at h
    split at h
    · rename_i tail
      split_ifs at h with hdigit
      obtain ⟨u, hu, htail, -, hstop⟩ := exists_of_dropDigits 0 tail
      obtain ⟨e, he, hleft⟩ := passes_skipLetter.1 _ _ h
      rw [hleft] at htail hstop
      have hne : u ≠ [] := by
        rintro rfl
        rw [htail, List.nil_append, hstop] at hdigit
        cases hdigit
      exact ⟨(0x2e :: u) ++ e, ⟨0x2e :: u, e, .digits hne hu, he, rfl⟩, by rw [htail]; simp⟩
    · obtain ⟨e, he, rfl⟩ := passes_skipLetter.1 _ _ h
      exact ⟨e, he.afterWhole, rfl⟩
  · rintro _ rest ⟨p, e, hp, he, rfl⟩ hends
    have hletter := passes_skipLetter.2 e rest he hends
    cases hp with
    | absent =>
      rw [List.nil_append, ← hletter]
      unfold skipFraction
      split
      · -- neither an exponent nor what ends a number begins with a point
        rename_i tail heq
        exact absurd heq (he.append_ne_point hends tail)
      · rfl
    | @digits u hne hu =>
      obtain ⟨b, v, rfl⟩ := List.exists_cons_of_ne_nil hne
      have hdrop := dropDigits_append hu (he.startsWithDigit_append hends) 0
      have hdigit : startsWithDigit ((b :: v) ++ (e ++ rest)) = true := hu b List.mem_cons_self
      rw [List.append_assoc, List.cons_append, skipFraction]
      simp only [hdigit, if_true, hdrop]
      exact hletter

theorem passes_skipUnsigned : Passes skipUnsigned Unsigned := by
  constructor
  · intro s rest h
    cases s with
    | nil => cases h
    | cons b s =>
      rw [skipUnsigned] at h
      split at h
      · cases h
      · rename_i hd
        split_ifs at h
        obtain ⟨_, ⟨p, e, hp, he, rfl⟩, rfl⟩ := passes_skipFraction.1 _ _ h
        rw [digit?_eq_zero_iff.1 hd]
        exact ⟨[0x30] ++ (p ++ e), .mk .zero hp he, rfl⟩
      · rename_i d hzero hd
        obtain ⟨u, hu, hs, -, -⟩ := exists_of_dropDigits 0 s
        obtain ⟨_, ⟨p, e, hp, he, rfl⟩, hleft⟩ := passes_skipFraction.1 _ _ h
        have hne : b ≠ 0x30 := fun hb => hzero (Option.some.inj (hd ▸ digit?_eq_zero_iff.2 hb))
        exact ⟨(b :: u) ++ (p ++ e), .mk (.digits (by simp [hd]) hne hu) hp he, by
          rw [hs, hleft]; simp⟩
  · rintro _ rest ⟨whole, point, exponent⟩ hends
    have hw : AfterWhole (_ ++ _) := ⟨_, _, point, exponent, rfl⟩
    have hfraction := passes_skipFraction.2 _ rest hw hends
    rw [List.append_assoc]
    cases whole with
    | zero =>
      rw [List.singleton_append, skipUnsigned]
      simp only [digit?_eq_zero_iff.2, hw.startsWithDigit_append hends]
      exact hfraction
    | @digits b u hb hne hu =>
      obtain ⟨d, hd⟩ := Option.isSome_iff_exists.1 hb
      have hzero : d ≠ 0 := fun h => hne (digit?_eq_zero_iff.1 (h ▸ hd))
      rw [List.cons_append, skipUnsigned]
      split
      · rename_i hnone
        rw [hnone] at hd
        cases hd
      · rename_i hd'
        exact absurd (Option.some.inj (hd.symm.trans hd')) hzero
      · rw [dropDigits_append hu (hw.startsWithDigit_append hends)]
        exact hfraction

end Json

end AlertRelay
