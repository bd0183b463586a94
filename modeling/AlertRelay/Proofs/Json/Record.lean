/-
AlertRelay/Proofs/Json/Record.lean

Records: the texts of an object or of an array from which fields are read.

A record fills a form from members by name or from items in order.  The items are the same as
members whose names are known, so both are a run over members, and what a record is can be said of
the members alone: a known name at most once, its value of the right kind, and any other member some
value that nobody reads (`RecordText`).

Main result: `reads_record`, for any form.
-/
import AlertRelay.Json.Field
import AlertRelay.Proofs.Json.Skip

namespace AlertRelay

namespace Json

/-! ### Kinds of values -/

/-- A scalar of the wrong type, or a bracket, is no text of the wanted kind. -/
theorem mismatch_ne_ok {α : Type} (wanted : Wanted) (s : Bytes) (a : α) :
    mismatch wanted s ≠ .ok a := by
  intro h
  unfold mismatch at h
  split at h
  · cases h
  · cases h
  · split at h <;> cases h

/-- Two texts of a relation that is read are of one value. -/
theorem Reads.unique {α : Type} {read : Reader α} {P : α → Bytes → Prop} (h : Reads read P)
    {t : Bytes} {a b : α} (ha : P a t) (hb : P b t) : a = b := by
  have hends : Ends [] := trivial
  have hfirst := h.complete blank_nil ha hends
  have hsecond := h.complete blank_nil hb hends
  rw [hfirst] at hsecond
  cases hsecond
  rfl

/-- What has been read is made into something else. -/
theorem Reads.map {α β : Type} {read : Reader α} {P : α → Bytes → Prop} (h : Reads read P)
    (f : α → β) :
    Reads (fun s => do
      let (a, s) ← read s
      pure (f a, s)) fun b t => ∃ a, P a t ∧ b = f a where
  sound := by
    intro s b rest hrun
    obtain ⟨⟨a, left⟩, hread, hdone⟩ := bind_eq_ok.1 hrun
    cases hdone
    obtain ⟨l, t, hl, ht, rfl⟩ := h.sound hread
    exact ⟨l, t, hl, ⟨a, ht, rfl⟩, rfl⟩
  complete := by
    rintro l t b rest hl ⟨a, ht, rfl⟩ hrest
    exact bind_eq_ok.2 ⟨(a, rest), h.complete hl ht hrest, rfl⟩
  starts := by
    rintro b t ⟨a, ht, -⟩
    exact h.starts ht

theorem reads_readString : Reads readString fun s t => Scalar (.string s) t where
  sound := by
    intro s x rest h
    unfold readString at h
    split at h
    · rename_i tail hs
      obtain ⟨l, hl, rfl⟩ := skipBlank_eq_cons hs
      obtain ⟨t, ht, rfl⟩ := text_eq_ok_iff.1 h
      exact ⟨l, _, hl, .string ht, by simp⟩
    · exact absurd h (mismatch_ne_ok _ _ _)
  complete := by
    intro l t x rest hl ht hrest
    cases ht with
    | @string _ t chars =>
      have htext : l ++ (0x22 :: (t ++ [0x22]) ++ rest) = l ++ 0x22 :: (t ++ 0x22 :: rest) := by
        simp
      rw [htext, readString, hl.skipBlank_cons (b := 0x22) (by decide)]
      exact text_eq_ok_iff.2 ⟨t, chars, rfl⟩
  starts := fun h => (Spells.scalar h : Spells 0 _ _).starts

/-- A text, or `null` for the empty one. -/
inductive TextOrNull : String → Bytes → Prop where
  | null : TextOrNull "" (0x6e :: ull)
  | text {s : String} {t : Bytes} (text : Scalar (.string s) t) : TextOrNull s t

/-- A reader of texts that may be `null`. -/
theorem reads_nullable_readString :
    Reads (fun s => do
      let (x, s) ← nullable readString s
      pure (x.getD "", s)) TextOrNull where
  sound := by
    intro s x rest hrun
    obtain ⟨⟨o, left⟩, hread, hdone⟩ := bind_eq_ok.1 hrun
    cases hdone
    unfold nullable at hread
    split at hread
    · rename_i tail hs
      obtain ⟨left', hident, hdone⟩ := bind_eq_ok.1 hread
      cases hdone
      obtain ⟨l, hl, rfl⟩ := skipBlank_eq_cons hs
      exact ⟨l, _, hl, .null, by rw [ident_eq_ok_iff.1 hident]; rfl⟩
    · obtain ⟨⟨y, left'⟩, hstring, hdone⟩ := bind_eq_ok.1 hread
      cases hdone
      obtain ⟨l, hl, hs⟩ := exists_blank s
      obtain ⟨l', t, hl', ht, hsplit⟩ := reads_readString.sound hstring
      exact ⟨l ++ l', t, hl.append hl', .text ht, by rw [hs, hsplit, List.append_assoc]⟩
  complete := by
    intro l t x rest hl ht hrest
    cases ht with
    | null =>
      have hread : nullable readString (l ++ (0x6e :: ull ++ rest)) = .ok (none, rest) := by
        rw [List.cons_append, nullable, hl.skipBlank_cons (b := 0x6e) (by decide)]
        simp [ident_eq_ok_iff.2, bind, Except.bind, pure, Except.pure]
      exact bind_eq_ok.2 ⟨_, hread, rfl⟩
    | text text =>
      have hstring := reads_readString.complete blank_nil text hrest
      have hread : nullable readString (l ++ (t ++ rest)) = .ok (some x, rest) := by
        cases text with
        | string chars =>
          rw [List.cons_append, nullable, hl.skipBlank_cons (b := 0x22) (by decide)]
          exact bind_eq_ok.2 ⟨_, hstring, rfl⟩
      exact bind_eq_ok.2 ⟨_, hread, rfl⟩
  starts := by
    intro x t ht
    cases ht with
    | null => exact (Spells.scalar .null : Spells 0 _ _).starts
    | text text => exact (Spells.scalar text : Spells 0 _ _).starts

/-- A colon, and what is read after it. -/
theorem colon_bind_eq_ok_iff {β : Type} {s : Bytes} {f : Bytes → Except Fault β} {b : β} :
    colon s >>= f = .ok b ↔ ∃ l s', Blank l ∧ s = l ++ 0x3a :: s' ∧ f s' = .ok b := by
  rw [bind_eq_ok]
  constructor
  · rintro ⟨s', hcolon, hf⟩
    obtain ⟨l, hl, rfl⟩ := exists_colon hcolon
    exact ⟨l, s', hl, rfl, hf⟩
  · rintro ⟨l, s', hl, rfl, hf⟩
    exact ⟨s', hl.colon s', hf⟩

/-! ### Items in order -/

section

variable {σ φ : Type}

/-- Fields that are set from items, as long as there are both. -/
inductive GathersItems (Q : σ → φ → Bytes → σ → Prop) : σ → List φ → List Bytes → σ → Prop where
  | nil (g : σ) (fs : List φ) : GathersItems Q g fs [] g
  | cons {g g' g'' : σ} {f : φ} {fs : List φ} {t : Bytes} {ts : List Bytes} (head : Q g f t g')
      (tail : GathersItems Q g' fs ts g'') : GathersItems Q g (f :: fs) (t :: ts) g''

theorem endOfItems_eq_ok_iff {s rest : Bytes} :
    endOfItems s = .ok rest ↔ ∃ l, Blank l ∧ s = l ++ 0x5d :: rest := by
  constructor
  · intro h
    unfold endOfItems at h
    split at h
    · cases h
    · rename_i tail hs
      cases h
      exact skipBlank_eq_cons hs
    · split at h <;> cases h
    · cases h
  · rintro ⟨l, hl, rfl⟩
    rw [endOfItems, hl.skipBlank_cons (b := 0x5d) (by decide)]
    rfl

/-- The texts of items, from the first on or after one of them. -/
def ItemsFrom (first : Bool) : List Bytes → Bytes → Prop :=
  if first then Items else MoreItems

theorem Blank.itemsFrom_nil {l : Bytes} (hl : Blank l) (first : Bool) : ItemsFrom first [] l := by
  cases first
  · exact .nil hl
  · exact .nil hl

/-- One more item. -/
theorem nextItem_eq_some {first : Bool} {s s' : Bytes} (h : nextItem first s = .ok (some s')) :
    ∃ l, s = l ++ s' ∧ ∀ {l' t u : Bytes} {ts : List Bytes}, Blank l' → MoreItems ts u →
      ItemsFrom first (t :: ts) (l ++ (l' ++ (t ++ u))) := by
  unfold nextItem at h
  obtain ⟨l, hl, hs⟩ := exists_blank s
  split at h
  · cases h
  · cases h
  · split_ifs at h with hfirst
    · cases h
      subst hfirst
      refine ⟨l, hs, fun hl' hu => ?_⟩
      rw [← List.append_assoc]
      exact .cons (hl.append hl') hu
    · have hfirst : first = false := by simpa using hfirst
      subst hfirst
      split at h
      · rename_i tail hskip
        obtain ⟨l₁, hl₁, htail⟩ := exists_blank tail
        split at h
        · cases h
        · cases h
        · cases h
          refine ⟨l ++ 0x2c :: l₁, ?_, fun {l' t u ts} hl' hu => ?_⟩
          · rw [hs, hskip, List.append_assoc, List.cons_append, ← htail]
          · have htext : l ++ 0x2c :: l₁ ++ (l' ++ (t ++ u)) =
                l ++ 0x2c :: ((l₁ ++ l') ++ (t ++ u)) := by simp
            rw [htext]
            exact .cons hl (hl₁.append hl') hu
      · cases h

theorem nextItem_first {l rest : Bytes} {b : UInt8} (hl : Blank l) (hblank : isBlank b = false)
    (hbracket : b ≠ 0x5d) : nextItem true (l ++ b :: rest) = .ok (some (b :: rest)) := by
  rw [nextItem, hl.skipBlank_cons hblank]
  simp [hbracket]

theorem nextItem_comma {l l' rest : Bytes} {b : UInt8} (hl : Blank l) (hl' : Blank l')
    (hblank : isBlank b = false) (hbracket : b ≠ 0x5d) :
    nextItem false (l ++ 0x2c :: (l' ++ b :: rest)) = .ok (some (b :: rest)) := by
  rw [nextItem, hl.skipBlank_cons (b := 0x2c) (by decide)]
  simp [hl'.skipBlank_cons hblank, hbracket]

variable {field : σ → φ → Reader σ} {Q : σ → φ → Bytes → σ → Prop}

theorem itemFields_eq_ok (h : ∀ g f, Reads (field g f) fun g' t => Q g f t g') {first : Bool}
    {fs : List φ} {g g' : σ} {s left rest : Bytes}
    (hrun : itemFields field first fs g s = .ok (g', left)) (hend : endOfItems left = .ok rest) :
    ∃ ts u, GathersItems Q g fs ts g' ∧ ItemsFrom first ts u ∧ s = u ++ 0x5d :: rest := by
  induction fs generalizing first g s with
  | nil =>
    cases hrun
    obtain ⟨l, hl, rfl⟩ := endOfItems_eq_ok_iff.1 hend
    exact ⟨[], l, .nil _ _, hl.itemsFrom_nil first, rfl⟩
  | cons f fs ih =>
    rw [itemFields] at hrun
    obtain ⟨next, hnext, hrun⟩ := bind_eq_ok.1 hrun
    cases next with
    | none =>
      cases hrun
      obtain ⟨l, hl, rfl⟩ := endOfItems_eq_ok_iff.1 hend
      exact ⟨[], l, .nil _ _, hl.itemsFrom_nil first, rfl⟩
    | some s' =>
      obtain ⟨⟨g₁, left'⟩, hread, hmore⟩ := bind_eq_ok.1 hrun
      obtain ⟨l, rfl, hitems⟩ := nextItem_eq_some hnext
      obtain ⟨l', t, hl', ht, rfl⟩ := (h g f).sound hread
      obtain ⟨ts, u, hgather, hu, rfl⟩ := ih hmore
      exact ⟨t :: ts, _, .cons ht hgather, hitems hl' hu, by simp⟩

theorem itemFields_complete (h : ∀ g f, Reads (field g f) fun g' t => Q g f t g') {first : Bool}
    {fs : List φ} {ts : List Bytes} {g g' : σ} (hgather : GathersItems Q g fs ts g') {u : Bytes}
    (hu : ItemsFrom first ts u) (rest : Bytes) :
    ∃ left, itemFields field first fs g (u ++ 0x5d :: rest) = .ok (g', left) ∧
      endOfItems left = .ok rest := by
  induction hgather generalizing first u with
  | nil g fs =>
    have hblank : Blank u := by
      cases first
      · cases hu with | nil before => exact before
      · cases hu with | nil before => exact before
    refine ⟨u ++ 0x5d :: rest, ?_, endOfItems_eq_ok_iff.2 ⟨u, hblank, rfl⟩⟩
    cases fs with
    | nil => rfl
    | cons f fs =>
      have hnext : nextItem first (u ++ 0x5d :: rest) = .ok none := by
        rw [nextItem, hblank.skipBlank_cons (b := 0x5d) (by decide)]
        rfl
      rw [itemFields, hnext]
      rfl
  | @cons g g₁ g' f fs t ts head tail ih =>
    obtain ⟨b, v, rfl, hblank, hbracket, -, hcomma⟩ := (h g f).starts head
    -- what follows an item are more of them
    have hstep : ∀ {w : Bytes}, MoreItems ts w →
        nextItem first (u ++ 0x5d :: rest) = .ok (some (b :: v ++ (w ++ 0x5d :: rest))) →
        ∃ left, itemFields field first (f :: fs) g (u ++ 0x5d :: rest) = .ok (g', left) ∧
          endOfItems left = .ok rest := by
      intro w hw hnext
      have hitem := (h g f).complete blank_nil head (hw.ends rest)
      rw [List.nil_append] at hitem
      have hw : ItemsFrom false ts w := hw
      obtain ⟨left, hrun, hend⟩ := ih hw
      refine ⟨left, ?_, hend⟩
      rw [itemFields, hnext]
      exact bind_eq_ok.2 ⟨some _, rfl, bind_eq_ok.2 ⟨(g₁, _), hitem, hrun⟩⟩
    cases first with
    | true =>
      cases hu with
      | @cons l _ w _ before more =>
        refine hstep more ?_
        have htext : l ++ (b :: v ++ w) ++ 0x5d :: rest = l ++ b :: (v ++ (w ++ 0x5d :: rest)) := by
          simp
        rw [htext, nextItem_first before hblank hbracket]
        rfl
    | false =>
      cases hu with
      | @cons l l' _ w _ before after more =>
        refine hstep more ?_
        have htext : l ++ 0x2c :: (l' ++ (b :: v ++ w)) ++ 0x5d :: rest =
            l ++ 0x2c :: (l' ++ b :: (v ++ (w ++ 0x5d :: rest))) := by simp
        rw [htext, nextItem_comma before after hblank hbracket]
        rfl

/-- **A record** is read from an object or an array. -/
theorem record_reads {name : String} {order : List φ} {named : σ → String → Reader σ}
    {R : σ → String → Bytes → σ → Prop} {start : σ}
    (hfield : ∀ g f, Reads (field g f) fun g' t => Q g f t g') (hnamed : ReadsField named R) :
    Reads (record name order field named start) fun g t =>
      (∃ ms u, Gathers R start ms g ∧ Fields Named ms u ∧ t = 0x7b :: (u ++ [0x7d])) ∨
        ∃ ts u, GathersItems Q start order ts g ∧ Items ts u ∧ t = 0x5b :: (u ++ [0x5d]) where
  sound := by
    intro s g rest h
    unfold record at h
    split at h
    · rename_i tail hs
      obtain ⟨l, hl, rfl⟩ := skipBlank_eq_cons hs
      obtain ⟨⟨g₁, left⟩, hrun, h⟩ := bind_eq_ok.1 h
      obtain ⟨left', hend, hdone⟩ := bind_eq_ok.1 h
      cases hdone
      obtain ⟨ts, u, hgather, hu, rfl⟩ := itemFields_eq_ok hfield hrun hend
      exact ⟨l, _, hl, .inr ⟨ts, u, hgather, hu, rfl⟩, by simp⟩
    · rename_i tail hs
      obtain ⟨l, hl, rfl⟩ := skipBlank_eq_cons hs
      obtain ⟨ms, u, hgather, hu, rfl⟩ := (fields_eq_ok_iff hnamed).1 h
      exact ⟨l, _, hl, .inl ⟨ms, u, hgather, hu, rfl⟩, by simp⟩
    · exact absurd h (mismatch_ne_ok _ _ _)
  complete := by
    rintro l t g rest hl (⟨ms, u, hgather, hu, rfl⟩ | ⟨ts, u, hgather, hu, rfl⟩) -
    · have htext : l ++ (0x7b :: (u ++ [0x7d]) ++ rest) = l ++ 0x7b :: (u ++ 0x7d :: rest) := by
        simp
      rw [htext, record, hl.skipBlank_cons (b := 0x7b) (by decide)]
      exact (fields_eq_ok_iff hnamed).2 ⟨ms, u, hgather, hu, rfl⟩
    · have htext : l ++ (0x5b :: (u ++ [0x5d]) ++ rest) = l ++ 0x5b :: (u ++ 0x5d :: rest) := by
        simp
      have hu : ItemsFrom true ts u := hu
      obtain ⟨left, hrun, hend⟩ := itemFields_complete hfield hgather hu rest
      rw [htext, record, hl.skipBlank_cons (b := 0x5b) (by decide)]
      simp [hrun, hend, bind, Except.bind, pure, Except.pure]
  starts := by
    rintro g t (⟨ms, u, -, -, rfl⟩ | ⟨ts, u, -, -, rfl⟩)
    · exact ⟨0x7b, _, rfl, by decide, by decide, by decide, by decide⟩
    · exact ⟨0x5b, _, rfl, by decide, by decide, by decide, by decide⟩

/-! ### Members by name -/

variable {form : Form σ φ Bytes}

/-- A reader of members that looks for the field first. -/
theorem readsField_form (hother : form.other = Formed) {named : σ → String → Reader σ}
    (cause : φ → Cause) (hfield : ∀ g f, Reads (field g f) fun g' t => form.sets g f t g')
    (hnamed : ∀ g name s, named g name s =
      match form.named? name with
      | none => do
        let s ← colon s
        let s ← skip s
        pure (g, s)
      | some f =>
        if form.has g f then giveUp (cause f) s
        else do
          let s ← colon s
          field g f s) : ReadsField named form.Member where
  sound := by
    intro g name s g' rest hrun
    rw [hnamed] at hrun
    unfold Form.Member
    cases hname : form.named? name with
    | none =>
      simp only [hname] at hrun
      obtain ⟨l, s', hl, rfl, hread⟩ := colon_bind_eq_ok_iff.1 hrun
      obtain ⟨left, hskip, hdone⟩ := bind_eq_ok.1 hread
      cases hdone
      obtain ⟨l', t, hl', ht, rfl⟩ := skip_eq_ok hskip
      exact ⟨l, l', t, hl, hl', ⟨hother ▸ ht, rfl⟩, rfl⟩
    | some f =>
      simp only [hname] at hrun
      split_ifs at hrun with hset
      · cases hrun
      · obtain ⟨l, s', hl, rfl, hread⟩ := colon_bind_eq_ok_iff.1 hrun
        obtain ⟨l', t, hl', ht, rfl⟩ := (hfield _ _).sound hread
        exact ⟨l, l', t, hl, hl', ⟨by simpa using hset, ht⟩, rfl⟩
  complete := by
    intro g name l l' t g' rest hl hl' hmember hrest
    rw [hnamed]
    unfold Form.Member at hmember
    cases hname : form.named? name with
    | none =>
      simp only [hname] at hmember ⊢
      obtain ⟨ht, rfl⟩ := hmember
      rw [hother] at ht
      exact colon_bind_eq_ok_iff.2 ⟨l, _, hl, rfl, bind_eq_ok.2 ⟨rest, ht.skip hl' hrest, rfl⟩⟩
    | some f =>
      simp only [hname] at hmember ⊢
      obtain ⟨hnew, ht⟩ := hmember
      rw [if_neg (by simp [hnew])]
      exact colon_bind_eq_ok_iff.2 ⟨l, _, hl, rfl, (hfield _ _).complete hl' ht hrest⟩

variable [DecidableEq φ]

/-- **Items are members** whose names are known: those of the fields in order. -/
theorem gathersItems_iff (h : form.Lawful) {fs : List φ} (hfs : fs.Nodup) {ts : List Bytes}
    {g g' : σ} (hnew : ∀ f ∈ fs, form.has g f = false) :
    GathersItems form.sets g fs ts g' ↔ ts.length ≤ fs.length ∧
      Gathers form.Member g ((fs.map form.label).zip ts) g' := by
  induction fs generalizing ts g with
  | nil =>
    cases ts with
    | nil =>
      refine ⟨fun hg => ?_, fun hg => ?_⟩
      · cases hg
        exact ⟨Nat.le_refl _, .nil _⟩
      · cases hg.2
        exact .nil _ _
    | cons t ts =>
      refine ⟨fun hg => ?_, fun hg => ?_⟩
      · cases hg
      · exact absurd hg.1 (Nat.not_succ_le_zero _)
  | cons f fs ih =>
    obtain ⟨hf, hfs⟩ := List.nodup_cons.1 hfs
    obtain ⟨hfirst, hnew⟩ := List.forall_mem_cons.1 hnew
    -- the later fields are other ones, so they have not been set either
    have hlater : ∀ {t g₁}, form.sets g f t g₁ → ∀ f' ∈ fs, form.has g₁ f' = false := by
      intro t g₁ hset f' hf'
      have hne : f' ≠ f := by
        rintro rfl
        exact hf hf'
      rw [h.sets hset, hnew f' hf']
      simp [hne]
    have hmember : ∀ {t g₁}, form.Member g (form.label f) t g₁ ↔ form.sets g f t g₁ := by
      intro t g₁
      rw [Form.Member, h.named?_label]
      exact ⟨fun h => h.2, fun h => ⟨hfirst, h⟩⟩
    cases ts with
    | nil =>
      refine ⟨fun hg => ?_, fun hg => ?_⟩
      · cases hg
        exact ⟨Nat.zero_le _, .nil _⟩
      · cases hg.2
        exact .nil _ _
    | cons t ts =>
      rw [List.map_cons, List.zip_cons_cons, List.length_cons, List.length_cons,
        Nat.add_le_add_iff_right]
      constructor
      · intro hg
        cases hg with
        | cons head tail =>
          obtain ⟨hle, hgather⟩ := (ih hfs (hlater head)).1 tail
          exact ⟨hle, .cons (hmember.2 head) hgather⟩
      · rintro ⟨hle, hg⟩
        cases hg with
        | cons head tail =>
          have hset := hmember.1 head
          exact .cons hset ((ih hfs (hlater hset)).2 ⟨hle, tail⟩)

/-! ### Records -/

/-- **The text of a record**: an object in which no field is given twice and every other member is
some value, or an array of at most as many items as there are fields.  What the fields hold is said
of the texts of their values. -/
inductive RecordText (labels : List String) (holds : (String → Option Bytes) → Prop) :
    Bytes → Prop where
  | object {ms : List (String × Bytes)} {t : Bytes} (text : Fields Named ms t)
      (once : ∀ name ∈ labels, AtMost 1 ms name)
      (others : ∀ m ∈ ms, m.1 ∉ labels → Formed m.2) (spelled : holds (valueAt ms)) :
      RecordText labels holds (0x7b :: (t ++ [0x7d]))
  | list {ts : List Bytes} {t : Bytes} (text : Items ts t) (few : ts.length ≤ labels.length)
      (spelled : holds (valueAt (labels.zip ts))) :
      RecordText labels holds (0x5b :: (t ++ [0x5d]))

/-- The names of items are names of fields, from the first on. -/
theorem names_zip_sublist (labels : List String) (ts : List Bytes) :
    ((labels.zip ts).map (·.1)).Sublist labels := by
  induction labels generalizing ts with
  | nil => simp
  | cons label labels ih =>
    cases ts with
    | nil => simp
    | cons t ts => simpa using ih ts

/-- A default or what is read under it is unique. -/
theorem Given.unique {α : Type} {read : Reader α} {P : α → Bytes → Prop} (h : Reads read P)
    {default a b : α} {given : Option Bytes} (ha : Given P default given a)
    (hb : Given P default given b) : a = b := by
  cases given with
  | none => exact ha.trans hb.symm
  | some t => exact h.unique ha hb

/-- **A record is read** from its texts, and from nothing else. -/
theorem reads_record {name : String} {named : σ → String → Reader σ} {start : σ} {α : Type}
    {out : σ → α} {holds : α → (String → Option Bytes) → Prop} (h : form.Lawful)
    (hother : form.other = Formed) (hd : form.Describes start out holds)
    (hfield : ∀ g f, Reads (field g f) fun g' t => form.sets g f t g')
    (hnamed : ReadsField named form.Member) :
    Reads (fun s => do
      let (g, s) ← record name form.order field named start s
      pure (out g, s)) fun a t => RecordText form.labels (holds a) t := by
  have hread : Reads (record name form.order field named start) _ := record_reads hfield hnamed
  have hnodup : form.order.Nodup := List.Nodup.of_map form.label h.distinct
  have hitems : ∀ {ts g}, GathersItems form.sets start form.order ts g ↔
      ts.length ≤ form.labels.length ∧ Gathers form.Member start (form.labels.zip ts) g := by
    intro ts g
    rw [gathersItems_iff h hnodup fun f _ => hd.empty f, Form.labels, List.length_map]
  refine ⟨?_, ?_, ?_⟩
  · intro s a rest hrun
    obtain ⟨⟨g, left⟩, hrecord, hdone⟩ := bind_eq_ok.1 hrun
    cases hdone
    obtain ⟨l, t, hl, ht, rfl⟩ := hread.sound hrecord
    refine ⟨l, t, hl, ?_, rfl⟩
    rcases ht with ⟨ms, u, hgather, hu, rfl⟩ | ⟨ts, u, hgather, hu, rfl⟩
    · obtain ⟨honce, hothers, hholds⟩ := (hd.exists_gathers_iff h).1 ⟨g, hgather, rfl⟩
      exact .object hu honce (hother ▸ hothers) hholds
    · obtain ⟨hle, hgather⟩ := hitems.1 hgather
      exact .list hu hle (hd.gathered hgather)
  · intro l t a rest hl ht hrest
    cases ht with
    | @object ms u text once others spelled =>
      obtain ⟨g, hgather, rfl⟩ := (hd.exists_gathers_iff h).2 ⟨once, hother ▸ others, spelled⟩
      exact bind_eq_ok.2 ⟨(g, rest), hread.complete hl (.inl ⟨ms, u, hgather, text, rfl⟩) hrest,
        rfl⟩
    | @list ts u text few spelled =>
      have honce : ∀ name ∈ form.labels, AtMost 1 (form.labels.zip ts) name := fun name _ =>
        atMost_of_nodup (h.distinct.sublist (names_zip_sublist _ ts)) name
      obtain ⟨g, hgather, rfl⟩ := (hd.exists_gathers_iff h).2 ⟨honce,
        fun m hm hnot => absurd (List.of_mem_zip hm).1 hnot, spelled⟩
      have hgather := hitems.2 ⟨few, hgather⟩
      exact bind_eq_ok.2 ⟨(g, rest), hread.complete hl (.inr ⟨ts, u, hgather, text, rfl⟩) hrest,
        rfl⟩
  · intro a t ht
    cases ht with
    | object _ _ _ _ => exact ⟨0x7b, _, rfl, by decide, by decide, by decide, by decide⟩
    | list _ _ _ => exact ⟨0x5b, _, rfl, by decide, by decide, by decide, by decide⟩

end

end Json

end AlertRelay
