/-
AlertRelay/Proofs/Json/Skip.lean

Values that nobody reads: which texts are passed over.

The reader keeps the open brackets in a list, and the grammar nests.  What is left of a text after
some point closes the open brackets from the innermost on (`Closes`): with that, each step of the
reader adds to the grammar what it has passed, and what is passed is right (`exists_closes`,
`skip_eq_ok`).

For the other direction a count has to last.  Each step takes a byte or ends a value, so twice the
bytes of a value are steps enough to pass it (`Passable`), and counts only matter downwards
(`skipWithin_succ`).  So every text of this kind is passed over (`Formed.skip`).
-/
import AlertRelay.Proofs.Json.Reader

namespace AlertRelay

namespace Json

/-! ### Parts -/

theorem Formed.starts {t : Bytes} (h : Formed t) : Starts t := by
  have hscalar : ∀ {b : UInt8} {u : Bytes}, (b = 0x6e ∨ b = 0x74 ∨ b = 0x66 ∨ b = 0x22 ∨
      b = 0x2d ∨ (digit? b).isSome = true) → Starts (b :: u) := by
    intro b u hb
    obtain ⟨hblank, -, -, hrest⟩ := begins_scalar hb
    exact ⟨b, u, rfl, hblank, hrest⟩
  cases h with
  | null => exact hscalar (.inl rfl)
  | isTrue => exact hscalar (.inr (.inl rfl))
  | isFalse => exact hscalar (.inr (.inr (.inl rfl)))
  | string _ => exact hscalar (.inr (.inr (.inr (.inl rfl))))
  | number number =>
    obtain ⟨b, u, rfl, hb⟩ := number.eq_cons
    exact hscalar (.inr (.inr (.inr (.inr hb))))
  | array _ _ => exact ⟨0x5b, _, rfl, by decide, by decide, by decide, by decide⟩
  | object _ _ => exact ⟨0x7b, _, rfl, by decide, by decide, by decide, by decide⟩

/-- The name of a member that nobody reads. -/
abbrev AnyName (_ : Unit) (n : Bytes) : Prop :=
  FormedChars n

theorem skipName_eq_ok_iff {s rest : Bytes} :
    skipName s = .ok rest ↔ ∃ l n l', Blank l ∧ FormedChars n ∧ Blank l' ∧
      s = l ++ 0x22 :: (n ++ 0x22 :: (l' ++ 0x3a :: rest)) := by
  constructor
  · intro h
    unfold skipName at h
    split at h
    · cases h
    · rename_i tail hs
      obtain ⟨left, hname, hcolon⟩ := bind_eq_ok.1 h
      obtain ⟨l, hl, rfl⟩ := skipBlank_eq_cons hs
      obtain ⟨n, hn, rfl⟩ := skipString_eq_ok_iff.1 hname
      obtain ⟨l', hl', rfl⟩ := exists_colon hcolon
      exact ⟨l, n, l', hl, hn, hl', rfl⟩
    · cases h
  · rintro ⟨l, n, l', hl, hn, hl', rfl⟩
    have hname : skipString .plain (n ++ 0x22 :: (l' ++ 0x3a :: rest)) = .ok _ :=
      skipString_eq_ok_iff.2 ⟨n, hn, rfl⟩
    rw [skipName, hl.skipBlank_cons (b := 0x22) (by decide)]
    simp [hname, hl'.colon, bind, Except.bind]

/-- A value that holds no other, whatever it is. -/
inductive FormedScalar : Bytes → Prop where
  | null : FormedScalar (0x6e :: ull)
  | isTrue : FormedScalar (0x74 :: rue)
  | isFalse : FormedScalar (0x66 :: alse)
  | string {t : Bytes} (chars : FormedChars t) : FormedScalar (0x22 :: (t ++ [0x22]))
  | number {t : Bytes} (number : IsNumber t) : FormedScalar t

theorem FormedScalar.formed {t : Bytes} (h : FormedScalar t) : Formed t := by
  cases h with
  | null => exact .null
  | isTrue => exact .isTrue
  | isFalse => exact .isFalse
  | string chars => exact .string chars
  | number number => exact .number number

theorem FormedScalar.eq_cons {t : Bytes} (h : FormedScalar t) :
    ∃ b u, t = b :: u ∧ isBlank b = false ∧ b ≠ 0x5b ∧ b ≠ 0x7b := by
  have hscalar : ∀ {b : UInt8} {u : Bytes}, (b = 0x6e ∨ b = 0x74 ∨ b = 0x66 ∨ b = 0x22 ∨
      b = 0x2d ∨ (digit? b).isSome = true) →
      ∃ b' u', b :: u = b' :: u' ∧ isBlank b' = false ∧ b' ≠ 0x5b ∧ b' ≠ 0x7b := by
    intro b u hb
    obtain ⟨hblank, hlist, hobject, -⟩ := begins_scalar hb
    exact ⟨b, u, rfl, hblank, hlist, hobject⟩
  cases h with
  | null => exact hscalar (.inl rfl)
  | isTrue => exact hscalar (.inr (.inl rfl))
  | isFalse => exact hscalar (.inr (.inr (.inl rfl)))
  | string _ => exact hscalar (.inr (.inr (.inr (.inl rfl))))
  | number number =>
    obtain ⟨b, u, rfl, hb⟩ := number.eq_cons
    exact hscalar (.inr (.inr (.inr (.inr hb))))

theorem skipScalar_eq_ok {s rest : Bytes} (h : skipScalar s = .ok rest) :
    ∃ t, FormedScalar t ∧ s = t ++ rest := by
  cases s with
  | nil => cases h
  | cons b s =>
    rw [skipScalar] at h
    split_ifs at h with hnull htrue hfalse hquote hminus hdigit
    · exact ⟨_, .null, by rw [hnull, ident_eq_ok_iff.1 h]; rfl⟩
    · exact ⟨_, .isTrue, by rw [htrue, ident_eq_ok_iff.1 h]; rfl⟩
    · exact ⟨_, .isFalse, by rw [hfalse, ident_eq_ok_iff.1 h]; rfl⟩
    · obtain ⟨t, ht, rfl⟩ := skipString_eq_ok_iff.1 h
      exact ⟨_, .string ht, by rw [hquote]; simp⟩
    · obtain ⟨t, ht, rfl⟩ := passes_skipUnsigned.1 _ _ h
      exact ⟨_, .number (.negative ht), by rw [hminus]; rfl⟩
    · obtain ⟨t, ht, htext⟩ := passes_skipUnsigned.1 _ _ h
      exact ⟨_, .number (.unsigned ht), htext⟩

theorem FormedScalar.skip {t rest : Bytes} (h : FormedScalar t) (hrest : Ends rest) :
    skipScalar (t ++ rest) = .ok rest := by
  cases h with
  | null => simp [skipScalar, ident_eq_ok_iff.2]
  | isTrue => simp [skipScalar, ident_eq_ok_iff.2]
  | isFalse => simp [skipScalar, ident_eq_ok_iff.2]
  | @string t chars =>
    have hstring : skipString .plain (t ++ 0x22 :: rest) = .ok rest :=
      skipString_eq_ok_iff.2 ⟨t, chars, rfl⟩
    simp [skipScalar, hstring]
  | number number =>
    cases number with
    | unsigned number =>
      have hpass := passes_skipUnsigned.2 _ rest number hrest
      obtain ⟨b, u, rfl, hb⟩ := number.eq_cons
      obtain ⟨-, -, -, hnull, htrue, hfalse, hquote⟩ := number_begins (.inr hb)
      have hminus : b ≠ 0x2d := by
        rintro rfl
        exact absurd hb (by decide)
      rw [List.cons_append] at hpass ⊢
      rw [skipScalar, if_neg hnull, if_neg htrue, if_neg hfalse, if_neg hquote, if_neg hminus,
        if_pos hb, hpass]
    | negative number =>
      have hpass := passes_skipUnsigned.2 _ rest number hrest
      simp [skipScalar, hpass]

/-! ### What is passed -/

/-- The rest of a text closes the open brackets, the innermost first. -/
inductive Closes : List Bracket → Bytes → Prop where
  | nil : Closes [] []
  | list {outer : List Bracket} {ts : List Bytes} {u w : Bytes} (items : ∀ t ∈ ts, Formed t)
      (text : MoreItems ts u) (rest : Closes outer w) : Closes (.list :: outer) (u ++ 0x5d :: w)
  | object {outer : List Bracket} {ms : List (Unit × Bytes)} {u w : Bytes}
      (members : ∀ m ∈ ms, Formed m.2) (text : MoreFields AnyName ms u) (rest : Closes outer w) :
      Closes (.object :: outer) (u ++ 0x7d :: w)

/-- A value with what closes the brackets around it. -/
def Continues (outer : List Bracket) (s rest : Bytes) : Prop :=
  ∃ l t u, Blank l ∧ Formed t ∧ Closes outer u ∧ s = l ++ (t ++ (u ++ rest))

/-- One more item, and one more member. -/
theorem Continues.comma_list {outer : List Bracket} {l s rest : Bytes} (hl : Blank l)
    (h : Continues (.list :: outer) s rest) :
    ∃ u, Closes (.list :: outer) u ∧ l ++ 0x2c :: s = u ++ rest := by
  obtain ⟨l', t, u, hl', ht, hu, rfl⟩ := h
  cases hu with
  | @list _ ts u w items text more =>
    exact ⟨_, .list (List.forall_mem_cons.2 ⟨ht, items⟩) (.cons hl hl' text) more, by simp⟩

theorem Continues.comma_object {outer : List Bracket} {l l₁ n l₂ s rest : Bytes} (hl : Blank l)
    (hl₁ : Blank l₁) (hn : FormedChars n) (hl₂ : Blank l₂)
    (h : Continues (.object :: outer) s rest) :
    ∃ u, Closes (.object :: outer) u ∧
      l ++ 0x2c :: (l₁ ++ 0x22 :: (n ++ 0x22 :: (l₂ ++ 0x3a :: s))) = u ++ rest := by
  obtain ⟨l', t, u, hl', ht, hu, rfl⟩ := h
  cases hu with
  | @object _ ms u w members text more =>
    exact ⟨_, .object (List.forall_mem_cons.2 ⟨ht, members⟩)
      (.cons (m := ((), t)) hl hl₁ (.mk hn hl₂ hl') text) more, by simp⟩

/-- A list, and an object, that is not empty. -/
theorem Continues.open_list {outer : List Bracket} {l l₁ s rest : Bytes} (hl : Blank l)
    (hl₁ : Blank l₁) (h : Continues (.list :: outer) s rest) :
    Continues outer (l ++ 0x5b :: (l₁ ++ s)) rest := by
  obtain ⟨l', t, u, hl', ht, hu, rfl⟩ := h
  cases hu with
  | @list _ ts u w items text more =>
    exact ⟨l, _, w, hl, .array (List.forall_mem_cons.2 ⟨ht, items⟩)
      (.cons (hl₁.append hl') text), more, by simp⟩

theorem Continues.open_object {outer : List Bracket} {l l₁ n l₂ s rest : Bytes} (hl : Blank l)
    (hl₁ : Blank l₁) (hn : FormedChars n) (hl₂ : Blank l₂)
    (h : Continues (.object :: outer) s rest) :
    Continues outer (l ++ 0x7b :: (l₁ ++ 0x22 :: (n ++ 0x22 :: (l₂ ++ 0x3a :: s)))) rest := by
  obtain ⟨l', t, u, hl', ht, hu, rfl⟩ := h
  cases hu with
  | @object _ ms u w members text more =>
    exact ⟨l, _, w, hl, .object (List.forall_mem_cons.2 ⟨ht, members⟩)
      (.cons (m := ((), t)) hl₁ (.mk hn hl₂ hl') text), more, by simp⟩

theorem no_items : ∀ t ∈ ([] : List Bytes), Formed t := by
  simp

theorem no_members : ∀ m ∈ ([] : List (Unit × Bytes)), Formed m.2 := by
  simp

/-- **What is passed** closes the open brackets, after a value if one comes next. -/
theorem exists_closes {fuel : Nat} {before : Bool} {opened : List Bracket} {s rest : Bytes}
    (h : skipWithin fuel before opened s = .ok rest) :
    if before then Continues opened s rest else ∃ u, Closes opened u ∧ s = u ++ rest := by
  -- along the loop: what it passes next is put in front of what it passes later
  induction fuel generalizing before opened s with
  | zero => cases before <;> cases h
  | succ fuel ih =>
    cases before with
    | false =>
      cases opened with
      | nil =>
        cases h
        exact ⟨[], .nil, rfl⟩
      | cons bracket outer =>
        obtain ⟨l, hl, hs⟩ := exists_blank s
        rw [hs]
        unfold skipWithin at h
        split at h
        · cases h
        · cases h
        · rename_i tail hskip
          rw [hskip]
          obtain ⟨w, hw, rfl⟩ := ih h
          exact ⟨_, .list no_items (.nil hl) hw, by simp⟩
        · rename_i tail hskip
          rw [hskip]
          obtain ⟨w, hw, rfl⟩ := ih h
          exact ⟨_, .object no_members (.nil hl) hw, by simp⟩
        · rename_i tail hskip
          rw [hskip]
          -- after a comma the loop stands before a value again
          exact Continues.comma_list hl (ih h)
        · rename_i tail hskip
          rw [hskip]
          obtain ⟨left, hname, hmore⟩ := bind_eq_ok.1 h
          obtain ⟨l₁, n, l₂, hl₁, hn, hl₂, rfl⟩ := skipName_eq_ok_iff.1 hname
          exact Continues.comma_object hl hl₁ hn hl₂ (ih hmore)
        · cases h
        · cases h
    | true =>
      obtain ⟨l, hl, hs⟩ := exists_blank s
      rw [hs]
      rw [skipWithin] at h
      show Continues _ _ _
      split at h
      · rename_i tail hskip
        rw [hskip]
        obtain ⟨l₁, hl₁, hs₁⟩ := exists_blank tail
        rw [hs₁]
        split at h
        · cases h
        · rename_i tail' hskip'
          rw [hskip']
          obtain ⟨w, hw, rfl⟩ := ih h
          exact ⟨l, _, w, hl, .array no_items (.nil hl₁), hw, by simp⟩
        · exact Continues.open_list hl hl₁ (ih h)
      · rename_i tail hskip
        rw [hskip]
        obtain ⟨l₁, hl₁, hs₁⟩ := exists_blank tail
        split at h
        · cases h
        · rename_i tail' hskip'
          rw [hs₁, hskip']
          obtain ⟨w, hw, rfl⟩ := ih h
          exact ⟨l, _, w, hl, .object no_members (.nil hl₁), hw, by simp⟩
        · obtain ⟨left, hname, hmore⟩ := bind_eq_ok.1 h
          obtain ⟨l₂, n, l₃, hl₂, hn, hl₃, hname⟩ := skipName_eq_ok_iff.1 hname
          rw [hs₁, hname, ← List.append_assoc]
          exact Continues.open_object hl (hl₁.append hl₂) hn hl₃ (ih hmore)
      · obtain ⟨left, hscalar, hmore⟩ := bind_eq_ok.1 h
        obtain ⟨t, ht, hskip⟩ := skipScalar_eq_ok hscalar
        obtain ⟨u, hu, rfl⟩ := ih hmore
        exact ⟨l, t, u, hl, ht.formed, hu, by rw [hskip]⟩

/-! ### Enough steps -/

/-- A count that is enough stays enough when it grows. -/
theorem skipWithin_succ {fuel : Nat} {before : Bool} {opened : List Bracket} {s rest : Bytes}
    (h : skipWithin fuel before opened s = .ok rest) :
    skipWithin (fuel + 1) before opened s = .ok rest := by
  induction fuel generalizing before opened s with
  | zero => cases before <;> cases h
  | succ fuel ih =>
    cases before with
    | false =>
      cases opened with
      | nil => exact h
      | cons bracket outer =>
        unfold skipWithin at h ⊢
        split at h
        · cases h
        · cases h
        · exact ih h
        · exact ih h
        · exact ih h
        · obtain ⟨left, hname, hmore⟩ := bind_eq_ok.1 h
          exact bind_eq_ok.2 ⟨left, hname, ih hmore⟩
        · cases h
        · cases h
    | true =>
      unfold skipWithin at h ⊢
      split at h
      · split at h
        · cases h
        · exact ih h
        · exact ih h
      · split at h
        · cases h
        · exact ih h
        · obtain ⟨left, hname, hmore⟩ := bind_eq_ok.1 h
          exact bind_eq_ok.2 ⟨left, hname, ih hmore⟩
      · obtain ⟨left, hscalar, hmore⟩ := bind_eq_ok.1 h
        exact bind_eq_ok.2 ⟨left, hscalar, ih hmore⟩

theorem skipWithin_of_le {fuel fuel' : Nat} (hle : fuel ≤ fuel') {before : Bool}
    {opened : List Bracket} {s rest : Bytes} (h : skipWithin fuel before opened s = .ok rest) :
    skipWithin fuel' before opened s = .ok rest := by
  induction hle with
  | refl => exact h
  | step _ ih => exact skipWithin_succ ih

/-- **A value** can be passed in twice as many steps as it has bytes. -/
def Passable (t : Bytes) : Prop :=
  Starts t ∧ ∀ {outer : List Bracket} {fuel : Nat} {l s rest : Bytes}, Blank l → Ends s →
    skipWithin fuel false outer s = .ok rest →
      skipWithin (fuel + 2 * t.length) true outer (l ++ (t ++ s)) = .ok rest

theorem FormedScalar.passable {t : Bytes} (h : FormedScalar t) : Passable t := by
  -- a scalar is passed in one step, and has at least one byte
  refine ⟨h.formed.starts, fun {outer fuel l s rest} hl hs hpass => ?_⟩
  have hskip := h.skip hs
  obtain ⟨b, u, rfl, hblank, hlist, hobject⟩ := h.eq_cons
  have hlater : skipWithin (fuel + 2 * u.length + 1) false outer s = .ok rest :=
    skipWithin_of_le (by omega) hpass
  have hcount : fuel + 2 * (b :: u).length = (fuel + 2 * u.length + 1) + 1 := by
    simp
    omega
  rw [hcount, List.cons_append] at *
  unfold skipWithin
  rw [hl.skipBlank_cons hblank]
  split
  · rename_i he
    exact absurd (List.cons.inj he).1 hlist
  · rename_i he
    exact absurd (List.cons.inj he).1 hobject
  · rw [hskip]
    exact hlater

/-- The items after one, and the bracket that closes the list. -/
theorem skipWithin_moreItems {ts : List Bytes} {u : Bytes} (hts : ∀ t ∈ ts, Passable t)
    (hu : MoreItems ts u) {outer : List Bracket} {fuel : Nat} {s rest : Bytes}
    (hpass : skipWithin fuel false outer s = .ok rest) :
    skipWithin (fuel + 2 * u.length + 1) false (.list :: outer) (u ++ 0x5d :: s) = .ok rest := by
  induction hu with
  | @nil l before =>
    unfold skipWithin
    rw [before.skipBlank_cons (b := 0x5d) (by decide)]
    exact skipWithin_of_le (by omega) hpass
  | @cons l l' t u ts before after more ih =>
    -- the steps for the later items and for what follows the list are those of the induction
    obtain ⟨ht, htail⟩ := List.forall_mem_cons.1 hts
    have htext : l ++ 0x2c :: (l' ++ (t ++ u)) ++ 0x5d :: s =
        l ++ 0x2c :: (l' ++ (t ++ (u ++ 0x5d :: s))) := by simp
    have hitem := ht.2 after (more.ends s) (ih htail)
    rw [htext]
    unfold skipWithin
    rw [before.skipBlank_cons (b := 0x2c) (by decide)]
    exact skipWithin_of_le (by simp; omega) hitem

theorem skipWithin_moreFields {ms : List (Unit × Bytes)} {u : Bytes}
    (hms : ∀ m ∈ ms, Passable m.2) (hu : MoreFields AnyName ms u) {outer : List Bracket}
    {fuel : Nat} {s rest : Bytes} (hpass : skipWithin fuel false outer s = .ok rest) :
    skipWithin (fuel + 2 * u.length + 1) false (.object :: outer) (u ++ 0x7d :: s) = .ok rest := by
  induction hu with
  | @nil l before =>
    unfold skipWithin
    rw [before.skipBlank_cons (b := 0x7d) (by decide)]
    exact skipWithin_of_le (by omega) hpass
  | @cons l l' _ u _ ms before after member more ih =>
    obtain ⟨ht, htail⟩ := List.forall_mem_cons.1 hms
    cases member with
    | @mk _ n l₁ l₂ t spelled before' after' =>
      have htext : l ++ 0x2c :: (l' ++ ((0x22 :: (n ++ 0x22 :: (l₁ ++ 0x3a :: (l₂ ++ t)))) ++ u)) ++
          0x7d :: s = l ++ 0x2c :: (l' ++ 0x22 :: (n ++ 0x22 :: (l₁ ++ 0x3a ::
            (l₂ ++ (t ++ (u ++ 0x7d :: s)))))) := by simp
      have hname : skipName (l' ++ 0x22 :: (n ++ 0x22 :: (l₁ ++ 0x3a ::
          (l₂ ++ (t ++ (u ++ 0x7d :: s)))))) = .ok _ :=
        skipName_eq_ok_iff.2 ⟨l', n, l₁, after, spelled, before', rfl⟩
      have hvalue := ht.2 after' (more.ends s) (ih htail)
      rw [htext]
      unfold skipWithin
      rw [before.skipBlank_cons (b := 0x2c) (by decide)]
      simp only [hname, bind, Except.bind]
      exact skipWithin_of_le (by simp; omega) hvalue

/-- An array, and an object, of what can be passed. -/
theorem passable_array {ts : List Bytes} {t : Bytes} (hts : ∀ t ∈ ts, Formed t)
    (hpass : ∀ t ∈ ts, Passable t) (htext : Items ts t) : Passable (0x5b :: (t ++ [0x5d])) := by
  refine ⟨(Formed.array hts htext).starts, fun {outer fuel l s rest} hl hs hend => ?_⟩
  have hsplit : l ++ (0x5b :: (t ++ [0x5d]) ++ s) = l ++ 0x5b :: (t ++ 0x5d :: s) := by simp
  -- one step for the bracket
  obtain ⟨count, hcount⟩ : ∃ n, fuel + 2 * (0x5b :: (t ++ [0x5d])).length = n + 1 :=
    ⟨fuel + 2 * t.length + 3, by simp; omega⟩
  rw [hsplit, hcount]
  unfold skipWithin
  rw [hl.skipBlank_cons (b := 0x5b) (by decide)]
  simp only
  cases htext with
  | nil before =>
    rw [before.skipBlank_cons (b := 0x5d) (by decide)]
    exact skipWithin_of_le (by simp at hcount; omega) hend
  | @cons l' v u ts before more =>
    obtain ⟨hv, htail⟩ := List.forall_mem_cons.1 hpass
    obtain ⟨b, w, rfl, hblank, hbracket, -, -⟩ := hv.1
    have hrest := skipWithin_moreItems htail more hend
    have hitem := hv.2 blank_nil (more.ends s) hrest
    rw [List.nil_append, List.cons_append] at hitem
    have hsplit : l' ++ (b :: w ++ u) ++ 0x5d :: s = l' ++ b :: (w ++ (u ++ 0x5d :: s)) := by
      simp
    rw [hsplit, before.skipBlank_cons hblank]
    split
    · rename_i he
      cases he
    · rename_i he
      exact absurd (List.cons.inj he).1 hbracket
    · exact skipWithin_of_le (by simp at hcount ⊢; omega) hitem

theorem passable_object {ms : List (Unit × Bytes)} {t : Bytes} (hms : ∀ m ∈ ms, Formed m.2)
    (hpass : ∀ m ∈ ms, Passable m.2) (htext : Fields AnyName ms t) :
    Passable (0x7b :: (t ++ [0x7d])) := by
  refine ⟨(Formed.object hms htext).starts, fun {outer fuel l s rest} hl hs hend => ?_⟩
  have hsplit : l ++ (0x7b :: (t ++ [0x7d]) ++ s) = l ++ 0x7b :: (t ++ 0x7d :: s) := by simp
  obtain ⟨count, hcount⟩ : ∃ n, fuel + 2 * (0x7b :: (t ++ [0x7d])).length = n + 1 :=
    ⟨fuel + 2 * t.length + 3, by simp; omega⟩
  rw [hsplit, hcount]
  unfold skipWithin
  rw [hl.skipBlank_cons (b := 0x7b) (by decide)]
  simp only
  cases htext with
  | nil before =>
    rw [before.skipBlank_cons (b := 0x7d) (by decide)]
    exact skipWithin_of_le (by simp at hcount; omega) hend
  | @cons l' _ u _ ms before member more =>
    obtain ⟨hv, htail⟩ := List.forall_mem_cons.1 hpass
    cases member with
    | @mk _ n l₁ l₂ v spelled before' after' =>
      have hrest := skipWithin_moreFields htail more hend
      have hvalue := hv.2 after' (more.ends s) hrest
      have hsplit : l' ++ ((0x22 :: (n ++ 0x22 :: (l₁ ++ 0x3a :: (l₂ ++ v)))) ++ u) ++
          0x7d :: s = l' ++ 0x22 :: (n ++ 0x22 :: (l₁ ++ 0x3a :: (l₂ ++ (v ++
            (u ++ 0x7d :: s))))) := by simp
      have hname : skipName (0x22 :: (n ++ 0x22 :: (l₁ ++ 0x3a :: (l₂ ++ (v ++
          (u ++ 0x7d :: s)))))) = .ok _ :=
        skipName_eq_ok_iff.2 ⟨[], n, l₁, blank_nil, spelled, before', rfl⟩
      rw [hsplit, before.skipBlank_cons (b := 0x22) (by decide)]
      split
      · rename_i he
        cases he
      · rename_i he
        cases (List.cons.inj he).1
      · simp only [hname, bind, Except.bind]
        exact skipWithin_of_le (by simp at hcount ⊢; omega) hvalue

theorem Formed.passable {t : Bytes} (h : Formed t) : Passable t := by
  induction h with
  | null => exact FormedScalar.null.passable
  | isTrue => exact FormedScalar.isTrue.passable
  | isFalse => exact FormedScalar.isFalse.passable
  | string chars => exact (FormedScalar.string chars).passable
  | number number => exact (FormedScalar.number number).passable
  | array items text ih => exact passable_array items ih text
  | object members text ih => exact passable_object members ih text

/-! ### Values that nobody reads -/

/-- **A value that nobody reads** is passed, and nothing else is. -/
theorem skip_eq_ok {s rest : Bytes} (h : skip s = .ok rest) :
    ∃ l t, Blank l ∧ Formed t ∧ s = l ++ (t ++ rest) := by
  obtain ⟨l, t, u, hl, ht, hu, rfl⟩ := exists_closes h
  cases hu
  exact ⟨l, t, hl, ht, rfl⟩

theorem Formed.skip {t : Bytes} (h : Formed t) {l rest : Bytes} (hl : Blank l)
    (hrest : Ends rest) : Json.skip (l ++ (t ++ rest)) = .ok rest := by
  have hend : skipWithin 1 false [] rest = .ok rest := rfl
  have hpass := h.passable.2 hl hrest hend
  exact skipWithin_of_le (by simp; omega) hpass

end Json

end AlertRelay
