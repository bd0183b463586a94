/-
AlertRelay/Proofs/Json/Reader.lean

Values: the texts that are read are those of the grammar, and each is read as what it spells.

A reader of parts is held against a relation between what is read and its text (`Reads`): what it
takes from the head of a text stands there after blanks, and every text of the relation is taken, if
what follows it cannot continue a number.  This is the form in which one reader is the part of
another, so arrays and objects are dealt with once (`items_eq_ok_iff`, `fields_eq_ok_iff`), for
whatever is read as an item or a member.

A whole text is read to its end (`readWhole_eq_ok_iff`); for arbitrary values that is
`parse_eq_ok_iff`.
-/
import AlertRelay.Proofs.Json.Form
import AlertRelay.Proofs.Json.Number
import AlertRelay.Proofs.Json.Text
import AlertRelay.Proofs.Json.Value

namespace AlertRelay

namespace Json

/-! ### Blanks -/

theorem blank_nil : Blank [] := by
  simp [Blank]

theorem Blank.append {l l' : Bytes} (hl : Blank l) (hl' : Blank l') : Blank (l ++ l') :=
  List.forall_mem_append.2 ⟨hl, hl'⟩

/-- Blanks do not matter before a text. -/
theorem Blank.skipBlank {l : Bytes} (hl : Blank l) (s : Bytes) :
    Json.skipBlank (l ++ s) = Json.skipBlank s := by
  induction l with
  | nil => rfl
  | cons b l ih =>
    obtain ⟨hb, hl⟩ := List.forall_mem_cons.1 hl
    rw [List.cons_append, Json.skipBlank, if_pos hb, ih hl]

/-- What is skipped is blank. -/
theorem exists_blank (s : Bytes) : ∃ l, Blank l ∧ s = l ++ skipBlank s := by
  induction s with
  | nil => exact ⟨[], blank_nil, rfl⟩
  | cons b s ih =>
    rw [skipBlank]
    split_ifs with hb
    · obtain ⟨l, hl, hs⟩ := ih
      exact ⟨b :: l, List.forall_mem_cons.2 ⟨hb, hl⟩, by rw [List.cons_append, ← hs]⟩
    · exact ⟨[], blank_nil, rfl⟩

/-- The first byte after blanks. -/
theorem Blank.skipBlank_cons {l : Bytes} (hl : Blank l) {b : UInt8} (hb : isBlank b = false)
    (s : Bytes) : Json.skipBlank (l ++ b :: s) = b :: s := by
  rw [hl.skipBlank, Json.skipBlank_cons hb]

theorem skipBlank_eq_nil_iff {s : Bytes} : skipBlank s = [] ↔ Blank s := by
  constructor
  · intro h
    obtain ⟨l, hl, hs⟩ := exists_blank s
    rw [h, List.append_nil] at hs
    exact hs ▸ hl
  · intro h
    have := h.skipBlank []
    rwa [List.append_nil] at this

theorem skipBlank_eq_cons {s t : Bytes} {b : UInt8} (h : skipBlank s = b :: t) :
    ∃ l, Blank l ∧ s = l ++ b :: t := by
  obtain ⟨l, hl, hs⟩ := exists_blank s
  exact ⟨l, hl, by rw [← h]; exact hs⟩

/-- A blank does not continue a number. -/
theorem ends_of_isBlank {b : UInt8} (h : isBlank b = true) (s : Bytes) : Ends (b :: s) := by
  simp only [isBlank, Bool.or_eq_true, decide_eq_true_eq] at h
  rcases h with ((rfl | rfl) | rfl) | rfl <;> exact ⟨by decide, by decide, by decide, by decide⟩

/-- Nor do blanks before something that does not. -/
theorem Blank.ends {l s : Bytes} (hl : Blank l) (hs : Ends s) : Ends (l ++ s) := by
  cases l with
  | nil => exact hs
  | cons b l => exact ends_of_isBlank (hl b List.mem_cons_self) _

theorem ends_comma (s : Bytes) : Ends (0x2c :: s) :=
  ⟨by decide, by decide, by decide, by decide⟩

theorem ends_bracket (s : Bytes) : Ends (0x5d :: s) :=
  ⟨by decide, by decide, by decide, by decide⟩

theorem ends_brace (s : Bytes) : Ends (0x7d :: s) :=
  ⟨by decide, by decide, by decide, by decide⟩

/-! ### Readers and texts -/

/-- The first byte of a part: no blank, and nothing that stands between or after parts. -/
def Starts (t : Bytes) : Prop :=
  ∃ b u, t = b :: u ∧ isBlank b = false ∧ b ≠ 0x5d ∧ b ≠ 0x7d ∧ b ≠ 0x2c

/-- **A reader** takes the texts of a relation, and nothing else. -/
structure Reads {α : Type} (read : Reader α) (P : α → Bytes → Prop) : Prop where
  sound : ∀ {s a rest}, read s = .ok (a, rest) → ∃ l t, Blank l ∧ P a t ∧ s = l ++ (t ++ rest)
  complete : ∀ {l t a rest}, Blank l → P a t → Ends rest → read (l ++ (t ++ rest)) = .ok (a, rest)
  starts : ∀ {a t}, P a t → Starts t

/-- A whole text is read if nothing but blanks is left of it. -/
theorem readWhole_eq_ok_iff {α : Type} {read : Reader α} {s : Bytes} {a : α} :
    readWhole read s = .ok a ↔ ∃ rest, read s = .ok (a, rest) ∧ Blank rest := by
  unfold readWhole
  cases read s with
  | error f => simp
  | ok r =>
    obtain ⟨b, rest⟩ := r
    simp only [finish, Except.ok.injEq, Prod.mk.injEq]
    cases hrest : skipBlank rest with
    | nil =>
      have hblank := skipBlank_eq_nil_iff.1 hrest
      simp only [Except.ok.injEq]
      exact ⟨fun h => ⟨rest, ⟨h, rfl⟩, hblank⟩, fun ⟨_, ⟨h, _⟩, _⟩ => h⟩
    | cons c t =>
      simp only [reduceCtorEq, false_iff]
      rintro ⟨r, ⟨-, rfl⟩, hblank⟩
      rw [skipBlank_eq_nil_iff.2 hblank] at hrest
      cases hrest

/-- **A whole text** is read if it is a text with blanks around it. -/
theorem Reads.readWhole_eq_ok_iff {α : Type} {read : Reader α} {P : α → Bytes → Prop}
    (h : Reads read P) {s : Bytes} {a : α} :
    readWhole read s = .ok a ↔ ∃ l t r, Blank l ∧ P a t ∧ Blank r ∧ s = l ++ (t ++ r) := by
  rw [Json.readWhole_eq_ok_iff]
  constructor
  · rintro ⟨r, hread, hr⟩
    obtain ⟨l, t, hl, ht, rfl⟩ := h.sound hread
    exact ⟨l, t, r, hl, ht, hr, rfl⟩
  · rintro ⟨l, t, r, hl, ht, hr, rfl⟩
    have hends : Ends r := by simpa using hr.ends (s := []) trivial
    exact ⟨r, h.complete hl ht hends, hr⟩

/-! ### Arrays -/

theorem MoreItems.ends {ts : List Bytes} {u : Bytes} (h : MoreItems ts u) (rest : Bytes) :
    Ends (u ++ 0x5d :: rest) := by
  cases h with
  | nil before => exact before.ends (ends_bracket rest)
  | cons before _ _ =>
    rw [List.append_assoc]
    exact before.ends (ends_comma _)

section

variable {α : Type} {item : Reader α} {P : α → Bytes → Prop}

theorem moreItems_eq_ok (h : Reads item P) {fuel : Nat} {done as : List α} {s rest : Bytes}
    (hrun : moreItems item fuel done s = .ok (as, rest)) :
    ∃ ps : List (α × Bytes), as = done.reverse ++ ps.map (·.1) ∧ (∀ p ∈ ps, P p.1 p.2) ∧
      ∃ u, MoreItems (ps.map (·.2)) u ∧ s = u ++ 0x5d :: rest := by
  -- along the loop, with what has been read before as an accumulator
  induction fuel generalizing done s with
  | zero => cases hrun
  | succ fuel ih =>
    rw [moreItems] at hrun
    split at hrun
    · cases hrun
    · rename_i tail hs
      cases hrun
      obtain ⟨l, hl, rfl⟩ := skipBlank_eq_cons hs
      exact ⟨[], by simp, by simp, l, .nil hl, rfl⟩
    · rename_i tail hs
      obtain ⟨l, hl, rfl⟩ := skipBlank_eq_cons hs
      obtain ⟨l', hl', htail⟩ := exists_blank tail
      split at hrun
      · cases hrun
      · cases hrun
      · obtain ⟨⟨a, left⟩, hitem, hmore⟩ := bind_eq_ok.1 hrun
        obtain ⟨l'', t, hl'', ht, hsplit⟩ := h.sound hitem
        obtain ⟨ps, rfl, hps, u, hu, rfl⟩ := ih hmore
        refine ⟨(a, t) :: ps, by simp, List.forall_mem_cons.2 ⟨ht, hps⟩, _,
          .cons hl (hl'.append hl'') hu, ?_⟩
        rw [htail, hsplit]
        simp
    · cases hrun

theorem moreItems_complete (h : Reads item P) {ps : List (α × Bytes)} (hps : ∀ p ∈ ps, P p.1 p.2)
    {u : Bytes} (hu : MoreItems (ps.map (·.2)) u) (done : List α) (rest : Bytes) {fuel : Nat}
    (hfuel : (u ++ 0x5d :: rest).length ≤ fuel) :
    moreItems item fuel done (u ++ 0x5d :: rest) = .ok (done.reverse ++ ps.map (·.1), rest) := by
  -- each item takes at least its comma, so the count lasts
  obtain ⟨fuel, rfl⟩ : ∃ n, fuel = n + 1 := by
    refine Nat.exists_eq_succ_of_ne_zero fun he => ?_
    simp [he] at hfuel
  induction ps generalizing u done fuel with
  | nil =>
    cases hu with
    | nil before => simp [moreItems, before.skipBlank_cons (b := 0x5d) (by decide)]
  | cons p ps ih =>
    obtain ⟨a, t⟩ := p
    obtain ⟨ht, htail⟩ := List.forall_mem_cons.1 hps
    cases hu with
    | @cons l l' _ u _ before after more =>
      have htext : l ++ 0x2c :: (l' ++ (t ++ u)) ++ 0x5d :: rest =
          l ++ 0x2c :: (l' ++ (t ++ (u ++ 0x5d :: rest))) := by simp
      -- the reader of an item begins where the blanks after the comma have been skipped already
      obtain ⟨b, v, rfl, hblank, hbracket, -, -⟩ := h.starts ht
      have hitem := h.complete blank_nil ht (more.ends rest)
      rw [List.nil_append] at hitem
      obtain ⟨fuel, rfl⟩ : ∃ n, fuel = n + 1 := by
        refine Nat.exists_eq_succ_of_ne_zero fun he => ?_
        simp [he] at hfuel
        omega
      have hrest := ih htail more (a :: done) fuel (by simp at hfuel ⊢; omega)
      rw [htext, moreItems, before.skipBlank_cons (b := 0x2c) (by decide)]
      simp only [List.cons_append] at hitem ⊢
      rw [after.skipBlank_cons hblank]
      split
      · rename_i he
        cases he
      · rename_i he
        exact absurd (List.cons.inj he).1 hbracket
      · rw [hitem]
        show moreItems item (fuel + 1) (a :: done) (u ++ 0x5d :: rest) = _
        rw [hrest]
        simp

/-- **An array** is read if its items are. -/
theorem items_eq_ok_iff (h : Reads item P) {s rest : Bytes} {as : List α} :
    items item s = .ok (as, rest) ↔
      ∃ ps : List (α × Bytes), as = ps.map (·.1) ∧ (∀ p ∈ ps, P p.1 p.2) ∧
        ∃ t, Items (ps.map (·.2)) t ∧ s = t ++ 0x5d :: rest := by
  constructor
  · intro hrun
    unfold items at hrun
    obtain ⟨l, hl, hs⟩ := exists_blank s
    split at hrun
    · cases hrun
    · rename_i tail hskip
      cases hrun
      rw [hskip] at hs
      exact ⟨[], rfl, by simp, l, .nil hl, hs⟩
    · obtain ⟨⟨a, left⟩, hitem, hmore⟩ := bind_eq_ok.1 hrun
      obtain ⟨l', t, hl', ht, hsplit⟩ := h.sound hitem
      obtain ⟨ps, rfl, hps, u, hu, rfl⟩ := moreItems_eq_ok h hmore
      refine ⟨(a, t) :: ps, by simp, List.forall_mem_cons.2 ⟨ht, hps⟩, _,
        .cons (hl.append hl') hu, ?_⟩
      rw [hs, hsplit]
      simp
  · rintro ⟨ps, rfl, hps, t, ht, rfl⟩
    cases ps with
    | nil =>
      cases ht with
      | nil before => simp [items, before.skipBlank_cons (b := 0x5d) (by decide)]
    | cons p ps =>
      obtain ⟨a, t⟩ := p
      obtain ⟨hp, htail⟩ := List.forall_mem_cons.1 hps
      cases ht with
      | @cons l _ u _ before more =>
        have htext : l ++ (t ++ u) ++ 0x5d :: rest = l ++ (t ++ (u ++ 0x5d :: rest)) := by simp
        obtain ⟨b, v, rfl, hblank, hbracket, -, -⟩ := h.starts hp
        have hitem := h.complete blank_nil hp (more.ends rest)
        have hrest := moreItems_complete h htail more [a] rest (Nat.le_refl _)
        rw [List.nil_append] at hitem
        rw [htext, items]
        simp only [List.cons_append] at hitem ⊢
        rw [before.skipBlank_cons hblank]
        split
        · rename_i he
          cases he
        · rename_i he
          exact absurd (List.cons.inj he).1 hbracket
        · rw [hitem]
          show moreItems item _ [a] (u ++ 0x5d :: rest) = _
          rw [hrest]
          simp

end

/-! ### Objects -/

theorem exists_colon {s rest : Bytes} (h : colon s = .ok rest) :
    ∃ l, Blank l ∧ s = l ++ 0x3a :: rest := by
  unfold colon at h
  split at h
  · cases h
  · rename_i tail hs
    cases h
    exact skipBlank_eq_cons hs
  · cases h

theorem Blank.colon {l : Bytes} (hl : Blank l) (rest : Bytes) :
    Json.colon (l ++ 0x3a :: rest) = .ok rest := by
  rw [Json.colon, hl.skipBlank_cons (b := 0x3a) (by decide)]
  rfl

theorem MoreFields.ends {ν : Type} {named : ν → Bytes → Prop} {ms : List (ν × Bytes)} {u : Bytes}
    (h : MoreFields named ms u) (rest : Bytes) : Ends (u ++ 0x7d :: rest) := by
  cases h with
  | nil before => exact before.ends (ends_brace rest)
  | cons before _ _ _ =>
    rw [List.append_assoc]
    exact before.ends (ends_comma _)

section

variable {σ : Type}

/-- **A reader of members** takes each member that a relation allows after what was gathered, and
no other: from the byte after the name, with its colon. -/
structure ReadsField (step : σ → String → Reader σ) (R : σ → String → Bytes → σ → Prop) : Prop where
  sound : ∀ {g name s g' rest}, step g name s = .ok (g', rest) →
    ∃ l l' t, Blank l ∧ Blank l' ∧ R g name t g' ∧ s = l ++ 0x3a :: (l' ++ (t ++ rest))
  complete : ∀ {g name l l' t g' rest}, Blank l → Blank l' → R g name t g' → Ends rest →
    step g name (l ++ 0x3a :: (l' ++ (t ++ rest))) = .ok (g', rest)

variable {step : σ → String → Reader σ} {R : σ → String → Bytes → σ → Prop}

/-- One member with its name, from its quote on. -/
theorem exists_field (h : ReadsField step R) {g g' : σ} {s left rest : Bytes} {name : String}
    (hname : text s = .ok (name, left)) (hstep : step g name left = .ok (g', rest)) :
    ∃ t u, Field Named (name, t) u ∧ R g name t g' ∧ 0x22 :: s = u ++ rest := by
  obtain ⟨n, hn, rfl⟩ := text_eq_ok_iff.1 hname
  obtain ⟨l, l', t, hl, hl', ht, rfl⟩ := h.sound hstep
  exact ⟨t, _, .mk hn hl hl', ht, by simp⟩

theorem Field.read (h : ReadsField step R) {g g' : σ} {name : String} {t u rest : Bytes}
    (hu : Field Named (name, t) u) (ht : R g name t g') (hrest : Ends rest) :
    ∃ s left, u ++ rest = 0x22 :: s ∧ text s = .ok (name, left) ∧
      step g name left = .ok (g', rest) := by
  cases hu with
  | @mk _ n l l' _ spelled before after =>
    refine ⟨n ++ 0x22 :: (l ++ 0x3a :: (l' ++ (t ++ rest))), _, by simp,
      text_eq_ok_iff.2 ⟨n, spelled, rfl⟩, h.complete before after ht hrest⟩

theorem moreFields_eq_ok (h : ReadsField step R) {fuel : Nat} {g g' : σ} {s rest : Bytes}
    (hrun : moreFields step fuel g s = .ok (g', rest)) :
    ∃ ms u, Gathers R g ms g' ∧ MoreFields Named ms u ∧ s = u ++ 0x7d :: rest := by
  induction fuel generalizing g s with
  | zero => cases hrun
  | succ fuel ih =>
    rw [Json.moreFields] at hrun
    split at hrun
    · cases hrun
    · rename_i tail hs
      cases hrun
      obtain ⟨l, hl, rfl⟩ := skipBlank_eq_cons hs
      exact ⟨[], l, .nil _, .nil hl, rfl⟩
    · rename_i tail hs
      obtain ⟨l, hl, rfl⟩ := skipBlank_eq_cons hs
      split at hrun
      · cases hrun
      · rename_i tail' hquote
        obtain ⟨l', hl', rfl⟩ := skipBlank_eq_cons hquote
        obtain ⟨⟨name, left⟩, hname, hstep⟩ := bind_eq_ok.1 hrun
        obtain ⟨⟨g₁, left'⟩, hstep, hmore⟩ := bind_eq_ok.1 hstep
        obtain ⟨t, u, hu, ht, htext⟩ := exists_field h hname hstep
        obtain ⟨ms, w, hgather, hw, rfl⟩ := ih hmore
        refine ⟨(name, t) :: ms, _, .cons ht hgather, .cons hl hl' hu hw, ?_⟩
        rw [htext]
        simp
      · cases hrun
      · cases hrun
    · cases hrun

theorem Gathers.moreFields (h : ReadsField step R) {ms : List (String × Bytes)} {g g' : σ}
    (hgather : Gathers R g ms g') {u : Bytes} (hu : MoreFields Named ms u) (rest : Bytes)
    {fuel : Nat} (hfuel : (u ++ 0x7d :: rest).length ≤ fuel) :
    Json.moreFields step fuel g (u ++ 0x7d :: rest) = .ok (g', rest) := by
  -- each member takes at least its comma, so the count lasts
  obtain ⟨fuel, rfl⟩ : ∃ n, fuel = n + 1 := by
    refine Nat.exists_eq_succ_of_ne_zero fun he => ?_
    simp [he] at hfuel
  induction hgather generalizing u fuel with
  | nil g =>
    cases hu with
    | nil before => simp [Json.moreFields, before.skipBlank_cons (b := 0x7d) (by decide)]
  | @cons g g₁ g' name t ms head tail ih =>
    cases hu with
    | @cons l l' v w _ _ before after member more =>
      have htext : l ++ 0x2c :: (l' ++ (v ++ w)) ++ 0x7d :: rest =
          l ++ 0x2c :: (l' ++ (v ++ (w ++ 0x7d :: rest))) := by simp
      obtain ⟨s, left, hs, hname, hstep⟩ := member.read h head (more.ends rest)
      obtain ⟨fuel, rfl⟩ : ∃ n, fuel = n + 1 := by
        refine Nat.exists_eq_succ_of_ne_zero fun he => ?_
        simp [he] at hfuel
        omega
      have hrest := ih more fuel (by simp at hfuel ⊢; omega)
      rw [htext, Json.moreFields, before.skipBlank_cons (b := 0x2c) (by decide)]
      simp only
      rw [hs, after.skipBlank_cons (b := 0x22) (by decide)]
      simp only [hname, hstep, bind, Except.bind]
      exact hrest

/-- **An object** is read if its members are gathered, one after the other. -/
theorem fields_eq_ok_iff (h : ReadsField step R) {g g' : σ} {s rest : Bytes} :
    fields step g s = .ok (g', rest) ↔
      ∃ ms t, Gathers R g ms g' ∧ Fields Named ms t ∧ s = t ++ 0x7d :: rest := by
  constructor
  · intro hrun
    unfold fields at hrun
    split at hrun
    · cases hrun
    · rename_i tail hs
      cases hrun
      obtain ⟨l, hl, rfl⟩ := skipBlank_eq_cons hs
      exact ⟨[], l, .nil _, .nil hl, rfl⟩
    · rename_i tail hs
      obtain ⟨l, hl, rfl⟩ := skipBlank_eq_cons hs
      obtain ⟨⟨name, left⟩, hname, hstep⟩ := bind_eq_ok.1 hrun
      obtain ⟨⟨g₁, left'⟩, hstep, hmore⟩ := bind_eq_ok.1 hstep
      obtain ⟨t, u, hu, ht, htext⟩ := exists_field h hname hstep
      obtain ⟨ms, w, hgather, hw, rfl⟩ := moreFields_eq_ok h hmore
      refine ⟨(name, t) :: ms, _, .cons ht hgather, .cons hl hu hw, ?_⟩
      rw [htext]
      simp
    · cases hrun
  · rintro ⟨ms, t, hgather, ht, rfl⟩
    cases hgather with
    | nil =>
      cases ht with
      | nil before => simp [fields, before.skipBlank_cons (b := 0x7d) (by decide)]
    | @cons g g₁ g' name t ms head tail =>
      cases ht with
      | @cons l v w _ _ before member more =>
        have htext : l ++ (v ++ w) ++ 0x7d :: rest = l ++ (v ++ (w ++ 0x7d :: rest)) := by simp
        obtain ⟨s, left, hs, hname, hstep⟩ := member.read h head (more.ends rest)
        rw [htext, fields, hs, before.skipBlank_cons (b := 0x22) (by decide)]
        simp only [hname, hstep, bind, Except.bind]
        exact tail.moreFields h more rest (Nat.le_refl _)

end

/-- A member of an arbitrary value is gathered with its value. -/
theorem readsField_member {read : Reader Json} {P : Json → Bytes → Prop} (h : Reads read P) :
    ReadsField (member read) fun done name t done' => ∃ v, P v t ∧ done' = (name, v) :: done where
  sound := by
    intro g name s g' rest hrun
    obtain ⟨left, hcolon, hrun⟩ := bind_eq_ok.1 hrun
    obtain ⟨⟨v, left'⟩, hread, hdone⟩ := bind_eq_ok.1 hrun
    obtain ⟨l, hl, rfl⟩ := exists_colon hcolon
    obtain ⟨l', t, hl', ht, rfl⟩ := h.sound hread
    cases hdone
    exact ⟨l, l', t, hl, hl', ⟨v, ht, rfl⟩, rfl⟩
  complete := by
    rintro g name l l' t g' rest hl hl' ⟨v, ht, rfl⟩ hrest
    simp [member, hl.colon, h.complete hl' ht hrest, bind, Except.bind, pure, Except.pure]

/-- What is gathered of arbitrary members. -/
theorem gathers_member_iff {P : Json → Bytes → Prop} {done done' : Members}
    {ms : List (String × Bytes)} :
    Gathers (fun done name t done' => ∃ v, P v t ∧ done' = (name, v) :: done) done ms done' ↔
      ∃ ps : List (String × Json × Bytes), ms = ps.map (fun p => (p.1, p.2.2)) ∧
        (∀ p ∈ ps, P p.2.1 p.2.2) ∧ done' = (ps.map fun p => (p.1, p.2.1)).reverse ++ done := by
  constructor
  · intro h
    induction h with
    | nil g => exact ⟨[], rfl, by simp, rfl⟩
    | @cons g g' g'' name t ms head _ ih =>
      obtain ⟨v, hv, rfl⟩ := head
      obtain ⟨ps, rfl, hps, rfl⟩ := ih
      exact ⟨(name, v, t) :: ps, rfl, List.forall_mem_cons.2 ⟨hv, hps⟩, by simp⟩
  · rintro ⟨ps, rfl, hps, rfl⟩
    induction ps generalizing done with
    | nil => exact .nil done
    | cons p ps ih =>
      obtain ⟨name, v, t⟩ := p
      obtain ⟨hv, htail⟩ := List.forall_mem_cons.1 hps
      have hrest := @ih ((name, v) :: done) htail
      refine .cons ⟨v, hv, rfl⟩ ?_
      simpa using hrest

/-- **The members of an object** are read if their values are. -/
theorem members_eq_ok_iff {read : Reader Json} {P : Json → Bytes → Prop} (h : Reads read P)
    {s rest : Bytes} {ms : Members} :
    members read s = .ok (ms, rest) ↔
      ∃ ps : List (String × Json × Bytes), ms = ps.map (fun p => (p.1, p.2.1)) ∧
        (∀ p ∈ ps, P p.2.1 p.2.2) ∧
        ∃ t, Fields Named (ps.map fun p => (p.1, p.2.2)) t ∧ s = t ++ 0x7d :: rest := by
  constructor
  · intro hrun
    obtain ⟨⟨gathered, left⟩, hfields, hdone⟩ := bind_eq_ok.1 hrun
    cases hdone
    obtain ⟨ms, t, hgather, ht, rfl⟩ := (fields_eq_ok_iff (readsField_member h)).1 hfields
    obtain ⟨ps, rfl, hps, rfl⟩ := gathers_member_iff.1 hgather
    exact ⟨ps, by simp, hps, t, ht, rfl⟩
  · rintro ⟨ps, rfl, hps, t, ht, rfl⟩
    have hgather := (@gathers_member_iff P [] _ _).2 ⟨ps, rfl, hps, rfl⟩
    have hfields : fields (member read) [] (t ++ 0x7d :: rest) = .ok (_, rest) :=
      (fields_eq_ok_iff (readsField_member h)).2 ⟨_, t, hgather, ht, rfl⟩
    simp [members, hfields, bind, Except.bind, pure, Except.pure]

/-! ### Values -/

theorem ident_eq_ok_iff {word s rest : Bytes} : ident word s = .ok rest ↔ s = word ++ rest := by
  induction word generalizing s with
  | nil => simp [ident]
  | cons w word ih =>
    cases s with
    | nil => simp [ident]
    | cons b s =>
      rw [ident]
      split_ifs with hb
      · rw [ih, hb]
        simp
      · simp [hb]

/-- The first byte of a scalar. -/
theorem Scalar.eq_cons {v : Json} {t : Bytes} (h : Scalar v t) :
    ∃ b u, t = b :: u ∧ (b = 0x6e ∨ b = 0x74 ∨ b = 0x66 ∨ b = 0x22 ∨ b = 0x2d ∨
      (digit? b).isSome = true) := by
  cases h with
  | null => exact ⟨_, _, rfl, .inl rfl⟩
  | isTrue => exact ⟨_, _, rfl, .inr (.inl rfl)⟩
  | isFalse => exact ⟨_, _, rfl, .inr (.inr (.inl rfl))⟩
  | string _ => exact ⟨_, _, rfl, .inr (.inr (.inr (.inl rfl)))⟩
  | @integer n _ =>
    obtain ⟨b, u, ht, hb⟩ := spelled_toString_eq_cons n
    exact ⟨b, u, ht, .inr (.inr (.inr (.inr hb)))⟩
  | float number _ =>
    obtain ⟨b, u, ht, hb⟩ := number.eq_cons
    exact ⟨b, u, ht, .inr (.inr (.inr (.inr hb)))⟩

/-- It begins nothing else. -/
theorem begins_scalar {b : UInt8} (h : b = 0x6e ∨ b = 0x74 ∨ b = 0x66 ∨ b = 0x22 ∨ b = 0x2d ∨
    (digit? b).isSome = true) :
    isBlank b = false ∧ b ≠ 0x5b ∧ b ≠ 0x7b ∧ b ≠ 0x5d ∧ b ≠ 0x7d ∧ b ≠ 0x2c := by
  have hdigit : ∀ b : UInt8, (digit? b).isSome = true → 0x30 ≤ b.toNat ∧ b.toNat ≤ 0x39 := by
    intro b hb
    unfold digit? at hb
    split at hb
    · rename_i hrange
      simpa [UInt8.le_iff_toNat_le] using hrange
    · cases hb
  rcases h with rfl | rfl | rfl | rfl | rfl | h
  · decide
  · decide
  · decide
  · decide
  · decide
  · have hrange := hdigit b h
    simp only [isBlank, Bool.or_eq_false_iff, decide_eq_false_iff_not, ne_eq, ← UInt8.toNat_inj,
      UInt8.reduceToNat]
    omega

theorem scalar_eq_ok {s rest : Bytes} {v : Json} (h : scalar s = .ok (v, rest)) :
    ∃ t, Scalar v t ∧ s = t ++ rest := by
  cases s with
  | nil => cases h
  | cons b s =>
    rw [scalar] at h
    split_ifs at h with hnull htrue hfalse hquote hnumber
    · obtain ⟨left, hident, hdone⟩ := bind_eq_ok.1 h
      cases hdone
      exact ⟨_, .null, by rw [hnull, ident_eq_ok_iff.1 hident]; rfl⟩
    · obtain ⟨left, hident, hdone⟩ := bind_eq_ok.1 h
      cases hdone
      exact ⟨_, .isTrue, by rw [htrue, ident_eq_ok_iff.1 hident]; rfl⟩
    · obtain ⟨left, hident, hdone⟩ := bind_eq_ok.1 h
      cases hdone
      exact ⟨_, .isFalse, by rw [hfalse, ident_eq_ok_iff.1 hident]; rfl⟩
    · obtain ⟨⟨x, left⟩, htext, hdone⟩ := bind_eq_ok.1 h
      cases hdone
      obtain ⟨t, ht, rfl⟩ := text_eq_ok_iff.1 htext
      exact ⟨_, .string ht, by rw [hquote]; simp⟩
    · obtain ⟨⟨n, left⟩, hread, hdone⟩ := bind_eq_ok.1 h
      cases n with
      | integer n =>
        cases hdone
        obtain ⟨htext, hwhole⟩ := number_eq_integer hread
        exact ⟨_, .integer hwhole, htext⟩
      | float x =>
        cases hdone
        obtain ⟨t, ht, htext, hlater⟩ := takes_number _ _ _ hread
        have hrounded := hlater [] trivial
        rw [List.append_nil] at hrounded
        exact ⟨t, .float ht hrounded, htext⟩

theorem Scalar.read {v : Json} {t rest : Bytes} (h : Scalar v t) (hrest : Ends rest) :
    scalar (t ++ rest) = .ok (v, rest) := by
  -- a number is known by its first byte
  have hnumber : ∀ {t : Bytes}, (∃ b u, t = b :: u ∧ (b = 0x2d ∨ (digit? b).isSome = true)) →
      (∀ n, number (t ++ rest) = .ok (.integer n, rest) →
        scalar (t ++ rest) = .ok (.integer n, rest)) ∧
      ∀ x, number (t ++ rest) = .ok (.float x, rest) →
        scalar (t ++ rest) = .ok (.float x, rest) := by
    rintro _ ⟨b, u, rfl, hfirst⟩
    obtain ⟨-, -, -, hnull, htrue, hfalse, hquote⟩ := number_begins hfirst
    rw [List.cons_append, scalar, if_neg hnull, if_neg htrue, if_neg hfalse, if_neg hquote,
      if_pos (by simpa using hfirst)]
    refine ⟨fun n hread => ?_, fun x hread => ?_⟩
    · rw [hread]
      rfl
    · rw [hread]
      rfl
  cases h with
  | null => simp [scalar, ident_eq_ok_iff.2, bind, Except.bind, pure, Except.pure]
  | isTrue => simp [scalar, ident_eq_ok_iff.2, bind, Except.bind, pure, Except.pure]
  | isFalse => simp [scalar, ident_eq_ok_iff.2, bind, Except.bind, pure, Except.pure]
  | @string x t chars =>
    have htext : text (t ++ 0x22 :: rest) = .ok (x, rest) := text_eq_ok_iff.2 ⟨t, chars, rfl⟩
    simp [scalar, htext, bind, Except.bind, pure, Except.pure]
  | @integer n whole =>
    exact (hnumber (spelled_toString_eq_cons n)).1 n (number_toString whole hrest)
  | @float x t number rounded =>
    obtain ⟨t', -, ht, hlater⟩ := takes_number _ _ _ rounded
    rw [List.append_nil] at ht
    exact (hnumber number.eq_cons).2 x (ht ▸ hlater rest hrest)

theorem Spells.starts {depth : Nat} {v : Json} {t : Bytes} (h : Spells depth v t) : Starts t := by
  cases h with
  | scalar scalar =>
    obtain ⟨b, u, rfl, hb⟩ := scalar.eq_cons
    obtain ⟨hblank, -, -, hrest⟩ := begins_scalar hb
    exact ⟨b, u, rfl, hblank, hrest⟩
  | array _ _ => exact ⟨0x5b, _, rfl, by decide, by decide, by decide, by decide⟩
  | object _ _ => exact ⟨0x7b, _, rfl, by decide, by decide, by decide, by decide⟩

/-- A value that is no bracket. -/
theorem value_scalar (depth : Nat) {l t rest : Bytes} (hl : Blank l) {v : Json} (h : Scalar v t)
    (hrest : Ends rest) : value depth (l ++ (t ++ rest)) = .ok (v, rest) := by
  have hread := h.read hrest
  obtain ⟨b, u, rfl, hb⟩ := h.eq_cons
  obtain ⟨hblank, hlist, hobject, -⟩ := begins_scalar hb
  have hskip : value depth (l ++ (b :: u ++ rest)) = value depth (b :: u ++ rest) := by
    cases depth <;> rw [value, value, hl.skipBlank]
  rw [hskip, List.cons_append, value_eq_scalar depth hblank hlist hobject]
  exact hread

/-- **A value** is read from its texts, and from nothing else. -/
theorem reads_value (depth : Nat) : Reads (value depth) (Spells depth) := by
  induction depth with
  | zero =>
    refine ⟨?_, ?_, Spells.starts⟩
    · intro s v rest h
      obtain ⟨l, hl, hs⟩ := exists_blank s
      rw [value] at h
      split at h
      · cases h
      · cases h
      · obtain ⟨t, ht, htext⟩ := scalar_eq_ok h
        exact ⟨l, t, hl, .scalar ht, by rw [hs, htext]⟩
    · intro l t v rest hl ht hrest
      cases ht with
      | scalar scalar => exact value_scalar 0 hl scalar hrest
  | succ depth ih =>
    refine ⟨?_, ?_, Spells.starts⟩
    · intro s v rest h
      rw [value] at h
      split at h
      · rename_i tail hs
        obtain ⟨⟨vs, left⟩, hitems, hdone⟩ := bind_eq_ok.1 h
        cases hdone
        obtain ⟨l, hl, rfl⟩ := skipBlank_eq_cons hs
        obtain ⟨ps, rfl, hps, t, ht, rfl⟩ := (items_eq_ok_iff ih).1 hitems
        exact ⟨l, _, hl, .array hps ht, by simp⟩
      · rename_i tail hs
        obtain ⟨⟨ms, left⟩, hmembers, hdone⟩ := bind_eq_ok.1 h
        cases hdone
        obtain ⟨l, hl, rfl⟩ := skipBlank_eq_cons hs
        obtain ⟨ps, rfl, hps, t, ht, rfl⟩ := (members_eq_ok_iff ih).1 hmembers
        exact ⟨l, _, hl, .object hps ht, by simp⟩
      · obtain ⟨l, hl, hs⟩ := exists_blank s
        obtain ⟨t, ht, htext⟩ := scalar_eq_ok h
        exact ⟨l, t, hl, .scalar ht, by rw [hs, htext]⟩
    · intro l t v rest hl ht hrest
      cases ht with
      | scalar scalar => exact value_scalar _ hl scalar hrest
      | @array _ ps t items text =>
        have hitems : Json.items (value depth) (t ++ 0x5d :: rest) = .ok (_, rest) :=
          (items_eq_ok_iff ih).2 ⟨ps, rfl, items, t, text, rfl⟩
        have htext : l ++ (0x5b :: (t ++ [0x5d]) ++ rest) = l ++ 0x5b :: (t ++ 0x5d :: rest) := by
          simp
        rw [htext, value, hl.skipBlank_cons (b := 0x5b) (by decide)]
        simp [hitems, bind, Except.bind, pure, Except.pure]
      | @object _ ps t members text =>
        have hmembers : Json.members (value depth) (t ++ 0x7d :: rest) = .ok (_, rest) :=
          (members_eq_ok_iff ih).2 ⟨ps, rfl, members, t, text, rfl⟩
        have htext : l ++ (0x7b :: (t ++ [0x7d]) ++ rest) = l ++ 0x7b :: (t ++ 0x7d :: rest) := by
          simp
        rw [htext, value, hl.skipBlank_cons (b := 0x7b) (by decide)]
        simp [hmembers, bind, Except.bind, pure, Except.pure]

/-- **What is parsed** is a text of the value. -/
theorem parse_eq_ok_iff {s : Bytes} {v : Json} : parse s = .ok v ↔ IsText v s :=
  (reads_value maxDepth).readWhole_eq_ok_iff

end Json

end AlertRelay
