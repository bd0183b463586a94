/-
AlertRelay/Proofs/Json/Form.lean

Forms: fields with names that are filled from named values.

Records are read from objects in several places: from the bytes of a text, from the items of an
array, from values that have been read already.  What they have in common is a form.  Each field has
a name, is set from a value, and is set only once; a value under any other name goes nowhere.

A run over named values (`Gathers`) can therefore be described without its order: no field is named
twice, and each holds what the value under its name says, or its default (`exists_gathers_iff`).
Where the fields are kept and what kinds of values they take is for the form to say.
-/
import AlertRelay.KeyedMap
import Mathlib.Data.List.Nodup

namespace AlertRelay

namespace Json

/-! ### Runs -/

section

variable {σ β : Type}

/-- Named values that are gathered, one after the other. -/
inductive Gathers (R : σ → String → β → σ → Prop) : σ → List (String × β) → σ → Prop where
  | nil (g : σ) : Gathers R g [] g
  | cons {g g' g'' : σ} {name : String} {b : β} {ms : List (String × β)}
      (head : R g name b g') (tail : Gathers R g' ms g'') : Gathers R g ((name, b) :: ms) g''

/-- What a list of named values says under a name; the first if there are more. -/
abbrev valueAt (ms : List (String × β)) (name : String) : Option β :=
  KeyedMap.lookup name ms

/-- A name is given at most so often. -/
def AtMost (n : Nat) (ms : List (String × β)) (name : String) : Prop :=
  (ms.map (·.1)).count name ≤ n

theorem valueAt_eq_none {ms : List (String × β)} {name : String} (h : AtMost 0 ms name) :
    valueAt ms name = none := by
  have hnot : name ∉ ms.map (·.1) := List.count_eq_zero.1 (Nat.le_zero.1 h)
  induction ms with
  | nil => rfl
  | cons m ms ih =>
    obtain ⟨k, b⟩ := m
    simp only [List.map_cons, List.mem_cons, not_or] at hnot
    rw [valueAt, KeyedMap.lookup, if_neg hnot.1]
    exact ih (Nat.le_of_eq (List.count_eq_zero.2 hnot.2)) hnot.2

theorem valueAt_of_mem {ms : List (String × β)} {m : String × β} (hm : m ∈ ms)
    (honce : AtMost 1 ms m.1) : valueAt ms m.1 = some m.2 := by
  induction ms with
  | nil => cases hm
  | cons m' ms ih =>
    obtain ⟨k, b⟩ := m'
    rw [valueAt, KeyedMap.lookup]
    rcases List.mem_cons.1 hm with rfl | hmem
    · simp
    · have hne : m.1 ≠ k := by
        rintro rfl
        have hpos : 0 < (ms.map (·.1)).count m.1 :=
          List.count_pos_iff.2 (List.mem_map_of_mem hmem)
        rw [AtMost, List.map_cons, List.count_cons_self] at honce
        omega
      rw [if_neg hne]
      refine ih hmem ?_
      rwa [AtMost, List.map_cons, List.count_cons_of_ne (Ne.symm hne)] at honce

/-- Names that differ are given once. -/
theorem atMost_of_nodup {ms : List (String × β)} (h : (ms.map (·.1)).Nodup) (name : String) :
    AtMost 1 ms name :=
  List.nodup_iff_count_le_one.1 h name

/-- What a field holds: what its value says, if there is one, or its default. -/
def Given {α : Type} (P : α → β → Prop) (default : α) : Option β → α → Prop
  | none, a => a = default
  | some b, a => P a b

end

/-! ### Forms -/

/-- **A form**: its fields and their names, which of them have been set, how a value sets one, and
what a value under any other name has to be. -/
structure Form (σ φ β : Type) where
  order : List φ
  label : φ → String
  has : σ → φ → Bool
  sets : σ → φ → β → σ → Prop
  other : β → Prop

namespace Form

variable {σ φ β : Type} (form : Form σ φ β)

/-- The names of the fields. -/
def labels : List String :=
  form.order.map form.label

/-- The field with a name. -/
def named? (name : String) : Option φ :=
  form.order.find? fun f => form.label f == name

/-- **One named value**: it sets a field that has not been set, or goes nowhere. -/
def Member (g : σ) (name : String) (b : β) (g' : σ) : Prop :=
  match form.named? name with
  | none => form.other b ∧ g' = g
  | some f => form.has g f = false ∧ form.sets g f b g'

variable {form}

theorem named?_eq_some {name : String} {f : φ} (h : form.named? name = some f) :
    form.label f = name := by
  simpa using List.find?_some h

theorem named?_eq_none_iff {name : String} : form.named? name = none ↔ name ∉ form.labels := by
  rw [named?, List.find?_eq_none, labels, List.mem_map]
  simp

/-- A value under another name is one of those that may be there. -/
theorem other_of_gathers {ms : List (String × β)} {g g' : σ} (h : Gathers form.Member g ms g') :
    ∀ m ∈ ms, m.1 ∉ form.labels → form.other m.2 := by
  induction h with
  | nil g => simp
  | cons head _ ih =>
    refine List.forall_mem_cons.2 ⟨fun hnot => ?_, ih⟩
    unfold Member at head
    rw [named?_eq_none_iff.2 hnot] at head
    exact head.1

variable [DecidableEq φ]

/-- **Fields that are told apart** by their names, and of which each is set on its own. -/
structure Lawful (form : Form σ φ β) : Prop where
  all : ∀ f, f ∈ form.order
  distinct : form.labels.Nodup
  sets : ∀ {g f b g'}, form.sets g f b g' →
    ∀ f', form.has g' f' = (form.has g f' || decide (f' = f))

namespace Lawful

theorem named?_label (h : form.Lawful) (f : φ) : form.named? (form.label f) = some f := by
  have hinj : ∀ f' ∈ form.order, form.label f' = form.label f → f' = f := fun f' hf' he =>
    List.inj_on_of_nodup_map h.distinct hf' (h.all f) he
  cases hfind : form.named? (form.label f) with
  | none =>
    have := List.find?_eq_none.1 hfind f (h.all f)
    simp at this
  | some f' =>
    have hlabel := List.find?_some hfind
    rw [hinj f' (List.mem_of_find?_eq_some hfind) (by simpa using hlabel)]

theorem label_mem (h : form.Lawful) (f : φ) : form.label f ∈ form.labels :=
  List.mem_map_of_mem (h.all f)

/-- A name that belongs to no field, or to another one, is not the name of this one. -/
theorem ne_label (h : form.Lawful) (name : String) (f : φ) (hname : form.named? name ≠ some f) :
    name ≠ form.label f := by
  rintro rfl
  exact hname (h.named?_label f)

/-- A field that has been set is not set again. -/
theorem atMost (h : form.Lawful) {ms : List (String × β)} {g g' : σ}
    (hgather : Gathers form.Member g ms g') (f : φ) :
    AtMost (if form.has g f then 0 else 1) ms (form.label f) := by
  induction hgather with
  | nil g => simp [AtMost]
  | @cons g g₁ g' name b ms head tail ih =>
    unfold Member at head
    split at head
    · rename_i hnone
      obtain ⟨-, rfl⟩ := head
      have hne := h.ne_label name f (by simp [hnone])
      rwa [AtMost, List.map_cons, List.count_cons_of_ne hne]
    · rename_i f' hsome
      obtain ⟨hnew, hset⟩ := head
      have hlabel := named?_eq_some hsome
      rw [h.sets hset] at ih
      by_cases hf : f = f'
      · subst hf
        rw [AtMost, List.map_cons, hlabel, List.count_cons_self, hnew]
        simpa [AtMost, hlabel] using ih
      · -- another field's value changes neither the count nor whether this one is set
        have hne := h.ne_label name f (by simp [hsome, Ne.symm hf])
        rw [AtMost, List.map_cons, List.count_cons_of_ne hne]
        simpa [AtMost, hf] using ih

/-- **A field** holds what its value says, or stays as it was: `slot` is where it is kept. -/
theorem slot (h : form.Lawful) {α : Type} (f : φ) (slot : σ → Option α) {P : α → β → Prop}
    (hown : ∀ {g b g'}, form.sets g f b g' → ∃ a, P a b ∧ slot g' = some a)
    (hothers : ∀ {g f' b g'}, f' ≠ f → form.sets g f' b g' → slot g' = slot g)
    {ms : List (String × β)} {g g' : σ} (hgather : Gathers form.Member g ms g') :
    match valueAt ms (form.label f) with
    | none => slot g' = slot g
    | some b => ∃ a, P a b ∧ slot g' = some a := by
  induction hgather with
  | nil g => exact rfl
  | @cons g g₁ g' name b ms head tail ih =>
    unfold Member at head
    split at head
    · rename_i hnone
      obtain ⟨-, rfl⟩ := head
      have hne := h.ne_label name f (by simp [hnone])
      rwa [valueAt, KeyedMap.lookup, if_neg hne.symm]
    · rename_i f' hsome
      obtain ⟨hnew, hset⟩ := head
      have hlabel := named?_eq_some hsome
      by_cases hf : f' = f
      · -- no other value can have the name, so the field keeps what it got
        subst hf
        have hatMost := h.atMost tail f'
        rw [h.sets hset] at hatMost
        simp only [decide_true, Bool.or_true, if_true] at hatMost
        rw [valueAt_eq_none hatMost] at ih
        obtain ⟨a, ha, hslot⟩ := hown hset
        rw [valueAt, KeyedMap.lookup, if_pos hlabel]
        exact ⟨a, ha, by rw [ih, hslot]⟩
      · have hne := h.ne_label name f (by simp [hsome, hf])
        rw [hothers hf hset] at ih
        rwa [valueAt, KeyedMap.lookup, if_neg hne.symm]

/-- **What a field holds** after all values, if it was not set before. -/
theorem given (h : form.Lawful) {α : Type} (f : φ) (slot : σ → Option α) {P : α → β → Prop}
    (default : α) (hown : ∀ {g b g'}, form.sets g f b g' → ∃ a, P a b ∧ slot g' = some a)
    (hothers : ∀ {g f' b g'}, f' ≠ f → form.sets g f' b g' → slot g' = slot g)
    {ms : List (String × β)} {g g' : σ} (hstart : slot g = none)
    (hgather : Gathers form.Member g ms g') :
    Given P default (valueAt ms (form.label f)) ((slot g').getD default) := by
  have hslot := h.slot f slot hown hothers hgather
  cases hvalue : valueAt ms (form.label f) with
  | none =>
    simp only [hvalue] at hslot
    rw [hslot, hstart]
    rfl
  | some b =>
    simp only [hvalue] at hslot
    obtain ⟨a, ha, hslot⟩ := hslot
    rw [hslot]
    exact ha

/-- **Values are gathered** if none names a field that is set, no two name the same, and each can
set its field. -/
theorem exists_gathers (h : form.Lawful) {ms : List (String × β)} {g : σ}
    (hatMost : ∀ f, AtMost (if form.has g f then 0 else 1) ms (form.label f))
    (hothers : ∀ m ∈ ms, m.1 ∉ form.labels → form.other m.2)
    (hfields : ∀ m ∈ ms, ∀ f, form.label f = m.1 → ∀ g, ∃ g', form.sets g f m.2 g') :
    ∃ g', Gathers form.Member g ms g' := by
  induction ms generalizing g with
  | nil => exact ⟨g, .nil g⟩
  | cons m ms ih =>
    -- the count for what is left has to be shown again, since the first value may set a field
    obtain ⟨name, b⟩ := m
    obtain ⟨hother, hothers⟩ := List.forall_mem_cons.1 hothers
    obtain ⟨hfield, hfields⟩ := List.forall_mem_cons.1 hfields
    cases hnamed : form.named? name with
    | none =>
      have hcount : ∀ f, AtMost (if form.has g f then 0 else 1) ms (form.label f) := fun f => by
        have hne := h.ne_label name f (by simp [hnamed])
        have hle := hatMost f
        rwa [AtMost, List.map_cons, List.count_cons_of_ne hne] at hle
      have hmember : form.Member g name b g := by
        rw [Member, hnamed]
        exact ⟨hother (named?_eq_none_iff.1 hnamed), rfl⟩
      obtain ⟨g', hgather⟩ := ih hcount hothers hfields
      exact ⟨g', .cons hmember hgather⟩
    | some f =>
      have hlabel := named?_eq_some hnamed
      obtain ⟨g₁, hset⟩ := hfield f hlabel g
      have hnew : form.has g f = false := by
        have hle := hatMost f
        rw [AtMost, List.map_cons, hlabel, List.count_cons_self] at hle
        by_contra hset
        rw [Bool.not_eq_false] at hset
        simp [hset] at hle
      have hcount : ∀ f', AtMost (if form.has g₁ f' then 0 else 1) ms (form.label f') := by
        intro f'
        have hle := hatMost f'
        rw [h.sets hset]
        by_cases hf : f' = f
        · subst hf
          rw [AtMost, List.map_cons, hlabel, List.count_cons_self, hnew] at hle
          rw [AtMost, hlabel, hnew]
          simpa using hle
        · have hne := h.ne_label name f' (by simp [hnamed, Ne.symm hf])
          rw [AtMost, List.map_cons, List.count_cons_of_ne hne] at hle
          simpa [AtMost, hf] using hle
      have hmember : form.Member g name b g₁ := by
        rw [Member, hnamed]
        exact ⟨hnew, hset⟩
      obtain ⟨g', hgather⟩ := ih hcount hothers hfields
      exact ⟨g', .cons hmember hgather⟩

end Lawful

/-- What a form holds, said of the values under the names of its fields: it is what has been
gathered, each value of a field can set it, and no values say two things. -/
structure Describes (form : Form σ φ β) (start : σ) {α : Type} (out : σ → α)
    (holds : α → (String → Option β) → Prop) : Prop where
  empty : ∀ f, form.has start f = false
  gathered : ∀ {ms g}, Gathers form.Member start ms g → holds (out g) (valueAt ms)
  settable : ∀ {a given f b}, holds a given → given (form.label f) = some b →
    ∀ g, ∃ g', form.sets g f b g'
  unique : ∀ {a a' given}, holds a given → holds a' given → a = a'

/-- **What a form is filled with**, whatever the order: no field is given twice, and it holds what
the values say. -/
theorem Describes.exists_gathers_iff {start : σ} {α : Type} {out : σ → α}
    {holds : α → (String → Option β) → Prop} (hd : form.Describes start out holds)
    (h : form.Lawful) {ms : List (String × β)} {a : α} :
    (∃ g, Gathers form.Member start ms g ∧ out g = a) ↔
      (∀ name ∈ form.labels, AtMost 1 ms name) ∧ (∀ m ∈ ms, m.1 ∉ form.labels → form.other m.2) ∧
        holds a (valueAt ms) := by
  constructor
  · rintro ⟨g, hgather, rfl⟩
    refine ⟨fun name hname => ?_, other_of_gathers hgather, hd.gathered hgather⟩
    obtain ⟨f, -, rfl⟩ := List.mem_map.1 hname
    simpa [hd.empty f] using h.atMost hgather f
  · rintro ⟨honce, hothers, ha⟩
    -- the values say one thing only, so what is gathered is what they say
    have honce' : ∀ f, AtMost 1 ms (form.label f) := fun f => honce _ (h.label_mem f)
    have hgathers : ∃ g, Gathers form.Member start ms g :=
      h.exists_gathers (fun f => by simpa [hd.empty f] using honce' f) hothers
        fun m hm f hf => hd.settable ha (hf ▸ valueAt_of_mem hm (hf ▸ honce' f))
    obtain ⟨g, hgather⟩ := hgathers
    exact ⟨g, hgather, hd.unique (hd.gathered hgather) ha⟩

end Form

end Json

end AlertRelay
