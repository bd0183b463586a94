/-
AlertRelay/KeyedMap.lean

Finite maps from texts, listed in ascending order of their keys.

Wherever the relay shows a map (tags of an event, the cached states, the lists of a queue, the
files of a directory) it shows it by ascending key, and wherever it walks over one, it walks in
that order.  So a map is its listing: a list of entries, ascending, which the type says.  Then two
maps that answer every look-up alike are equal (`ext_get?`), and no order of insertions can leak
into what is shown.

Texts are compared by code points, which is the order of their bytes.
-/

namespace AlertRelay

/-- Entries in strictly ascending order of their keys. -/
def Ascending {α : Type} (entries : List (String × α)) : Prop :=
  entries.Pairwise fun a b => compare a.1 b.1 = .lt

/-- A finite map from texts. -/
structure KeyedMap (α : Type) where
  toList : List (String × α)
  ascending : Ascending toList

namespace KeyedMap

variable {α : Type}

theorem eq_of_toList_eq {m n : KeyedMap α} (h : m.toList = n.toList) : m = n := by
  cases m; cases n; simp_all

instance [DecidableEq α] : DecidableEq (KeyedMap α) := fun m n =>
  decidable_of_iff (m.toList = n.toList) ⟨eq_of_toList_eq, congrArg _⟩

instance [Repr α] : Repr (KeyedMap α) where
  reprPrec m p := reprPrec m.toList p

/-! ### Listings -/

/-- The value at a key of a listing. -/
def lookup (key : String) : List (String × α) → Option α
  | [] => none
  | (k, a) :: rest => if key = k then some a else lookup key rest

/-- Puts an entry where its key belongs, in place of one that has the key already. -/
def place (key : String) (a : α) : List (String × α) → List (String × α)
  | [] => [(key, a)]
  | (k, b) :: rest =>
    match compare key k with
    | .lt => (key, a) :: (k, b) :: rest
    | .eq => (key, a) :: rest
    | .gt => (k, b) :: place key a rest

theorem mem_place {key : String} {a : α} {entries : List (String × α)} {e : String × α}
    (h : e ∈ place key a entries) : e = (key, a) ∨ e ∈ entries := by
  induction entries with
  | nil => simpa [place] using h
  | cons x rest ih =>
    obtain ⟨k, b⟩ := x
    simp only [place] at h
    split at h
    · simpa using h
    · rcases List.mem_cons.1 h with rfl | h
      · exact .inl rfl
      · exact .inr (.tail _ h)
    · rcases List.mem_cons.1 h with rfl | h
      · exact .inr (.head _)
      · exact (ih h).imp id (.tail _)

theorem ascending_place (key : String) (a : α) {entries : List (String × α)}
    (h : Ascending entries) : Ascending (place key a entries) := by
  induction entries with
  | nil => simp [place, Ascending]
  | cons x rest ih =>
    obtain ⟨k, b⟩ := x
    obtain ⟨hk, hrest⟩ := List.pairwise_cons.1 h
    simp only [place]
    split
    · rename_i hlt
      refine List.pairwise_cons.2 ⟨fun e he => ?_, h⟩
      rcases List.mem_cons.1 he with rfl | he
      · exact hlt
      · exact Std.TransCmp.lt_trans hlt (hk e he)
    · rename_i heq
      have : key = k := Std.LawfulEqCmp.eq_of_compare heq
      subst this
      exact List.pairwise_cons.2 ⟨hk, hrest⟩
    · rename_i hgt
      refine List.pairwise_cons.2 ⟨fun e he => ?_, ih hrest⟩
      rcases mem_place he with rfl | he
      · exact Std.OrientedCmp.lt_of_gt hgt
      · exact hk e he

/-! ### Operations -/

/-- The map without entries. -/
def empty : KeyedMap α :=
  ⟨[], .nil⟩

instance : EmptyCollection (KeyedMap α) := ⟨empty⟩

instance : Inhabited (KeyedMap α) := ⟨empty⟩

/-- The value at a key. -/
def get? (m : KeyedMap α) (key : String) : Option α :=
  lookup key m.toList

/-- The map with a value at a key, whatever stood there. -/
def insert (m : KeyedMap α) (key : String) (a : α) : KeyedMap α :=
  ⟨place key a m.toList, ascending_place key a m.ascending⟩

/-- The map without a key. -/
def erase (m : KeyedMap α) (key : String) : KeyedMap α :=
  ⟨m.toList.filter (fun e => e.1 ≠ key), m.ascending.filter _⟩

/-- The entries that satisfy a condition. -/
def filter (m : KeyedMap α) (p : String → α → Bool) : KeyedMap α :=
  ⟨m.toList.filter (fun e => p e.1 e.2), m.ascending.filter _⟩

/-- The map with every value changed. -/
def map {β : Type} (m : KeyedMap α) (f : α → β) : KeyedMap β :=
  ⟨m.toList.map (fun e => (e.1, f e.2)), by
    have h := m.ascending
    unfold Ascending at h ⊢
    rw [List.pairwise_map]
    exact h⟩

/-- The map of a list of entries; of entries with the same key the last counts. -/
def ofList (entries : List (String × α)) : KeyedMap α :=
  entries.foldl (fun m e => m.insert e.1 e.2) ∅

/-- How many entries there are. -/
def size (m : KeyedMap α) : Nat :=
  m.toList.length

/-- The keys, ascending. -/
def keys (m : KeyedMap α) : List String :=
  m.toList.map (·.1)

/-! ### Look-ups determine a map -/

@[simp] theorem get?_empty (key : String) : (∅ : KeyedMap α).get? key = none := rfl

theorem lookup_place (key key' : String) (a : α) (entries : List (String × α)) :
    lookup key' (place key a entries) = if key' = key then some a else lookup key' entries := by
  induction entries with
  | nil => simp [place, lookup]
  | cons x rest ih =>
    obtain ⟨k, b⟩ := x
    simp only [place]
    split
    · simp [lookup]
    · rename_i heq
      have : key = k := Std.LawfulEqCmp.eq_of_compare heq
      subst this
      by_cases h : key' = key <;> simp [lookup, h]
    · rename_i hgt
      have hne : key ≠ k := by
        rintro rfl
        simp at hgt
      by_cases h : key' = k
      · subst h
        simp [lookup, Ne.symm hne]
      · simp [lookup, h, ih]

theorem lookup_filter_ne (key key' : String) (entries : List (String × α)) :
    lookup key' (entries.filter (fun e => e.1 ≠ key)) =
      if key' = key then none else lookup key' entries := by
  induction entries with
  | nil => simp [lookup]
  | cons x rest ih =>
    obtain ⟨k, b⟩ := x
    by_cases hk : k = key
    · subst hk
      by_cases h : key' = k <;> simp_all [lookup]
    · by_cases h : key' = k
      · subst h
        simp [lookup, hk]
      · simp_all [lookup]

/-- **Insertion** changes the look-up at its own key only. -/
theorem get?_insert (m : KeyedMap α) (key key' : String) (a : α) :
    (m.insert key a).get? key' = if key' = key then some a else m.get? key' :=
  lookup_place key key' a m.toList

/-- **Erasure** changes the look-up at its own key only. -/
theorem get?_erase (m : KeyedMap α) (key key' : String) :
    (m.erase key).get? key' = if key' = key then none else m.get? key' :=
  lookup_filter_ne key key' m.toList

theorem lookup_eq_none_of_lt {key : String} {entries : List (String × α)}
    (h : ∀ e ∈ entries, compare key e.1 = .lt) : lookup key entries = none := by
  induction entries with
  | nil => rfl
  | cons x rest ih =>
    have hne : key ≠ x.1 := by
      intro he
      have := h x (.head _)
      rw [he] at this
      simp at this
    simp [lookup, hne, ih fun e he => h e (.tail _ he)]

theorem lookup_eq_some_iff {key : String} {a : α} {entries : List (String × α)}
    (h : Ascending entries) : lookup key entries = some a ↔ (key, a) ∈ entries := by
  induction entries with
  | nil => simp [lookup]
  | cons x rest ih =>
    obtain ⟨k, b⟩ := x
    obtain ⟨hk, hrest⟩ := List.pairwise_cons.1 h
    by_cases he : key = k
    · subst he
      have hnot : (key, a) ∉ rest := by
        intro hmem
        have := hk _ hmem
        simp at this
      simp [lookup, hnot, eq_comm]
    · simp [lookup, he, ih hrest]

/-- **The listing** of a map shows what its look-ups find. -/
theorem mem_toList_iff (m : KeyedMap α) (key : String) (a : α) :
    (key, a) ∈ m.toList ↔ m.get? key = some a :=
  (lookup_eq_some_iff m.ascending).symm

theorem toList_eq_of_lookup_eq {l₁ l₂ : List (String × α)} (h₁ : Ascending l₁) (h₂ : Ascending l₂)
    (h : ∀ key, lookup key l₁ = lookup key l₂) : l₁ = l₂ := by
  induction l₁ generalizing l₂ with
  | nil =>
    cases l₂ with
    | nil => rfl
    | cons y _ => simpa [lookup] using h y.1
  | cons x r₁ ih =>
    cases l₂ with
    | nil => simpa [lookup] using h x.1
    | cons y r₂ =>
      obtain ⟨k₁, a₁⟩ := x
      obtain ⟨k₂, a₂⟩ := y
      obtain ⟨hx, hr₁⟩ := List.pairwise_cons.1 h₁
      obtain ⟨hy, hr₂⟩ := List.pairwise_cons.1 h₂
      have hk : k₁ = k₂ := by
        rcases hc : compare k₁ k₂ with _ | _ | _
        · have := h k₁
          have hn : lookup k₁ ((k₂, a₂) :: r₂) = none :=
            lookup_eq_none_of_lt fun e he => by
              rcases List.mem_cons.1 he with rfl | he
              · exact hc
              · exact Std.TransCmp.lt_trans hc (hy e he)
          rw [hn] at this
          simp [lookup] at this
        · exact Std.LawfulEqCmp.eq_of_compare hc
        · have hc' : compare k₂ k₁ = .lt := Std.OrientedCmp.lt_of_gt hc
          have := h k₂
          have hn : lookup k₂ ((k₁, a₁) :: r₁) = none :=
            lookup_eq_none_of_lt fun e he => by
              rcases List.mem_cons.1 he with rfl | he
              · exact hc'
              · exact Std.TransCmp.lt_trans hc' (hx e he)
          rw [hn] at this
          simp [lookup] at this
      subst hk
      have ha : a₁ = a₂ := by simpa [lookup] using h k₁
      subst ha
      refine congrArg _ (ih hr₁ hr₂ fun key => ?_)
      by_cases he : key = k₁
      · subst he
        rw [lookup_eq_none_of_lt hx, lookup_eq_none_of_lt hy]
      · simpa [lookup, he] using h key

/-- **Extensionality**: maps that answer every look-up alike are equal. -/
theorem ext_get? {m n : KeyedMap α} (h : ∀ key, m.get? key = n.get? key) : m = n :=
  eq_of_toList_eq (toList_eq_of_lookup_eq m.ascending n.ascending h)

/-! ### Maps of lists -/

theorem mem_foldl_insert {entries : List (String × α)} {m : KeyedMap α}
    (hkeys : (entries.map (·.1)).Nodup) (hnew : ∀ e ∈ entries, m.get? e.1 = none)
    (e : String × α) :
    e ∈ (entries.foldl (fun m e => m.insert e.1 e.2) m).toList ↔ e ∈ m.toList ∨ e ∈ entries := by
  induction entries generalizing m with
  | nil => simp
  | cons x rest ih =>
    obtain ⟨hx, hrest⟩ := List.nodup_cons.1 hkeys
    have hne : ∀ y ∈ rest, y.1 ≠ x.1 := fun y hy he =>
      hx (List.mem_map.2 ⟨y, hy, he⟩)
    have hnew' : ∀ y ∈ rest, (m.insert x.1 x.2).get? y.1 = none := fun y hy => by
      rw [get?_insert, if_neg (hne y hy), hnew y (.tail _ hy)]
    have hinsert : e ∈ (m.insert x.1 x.2).toList ↔ e ∈ m.toList ∨ e = x := by
      obtain ⟨k, a⟩ := e
      rw [mem_toList_iff, mem_toList_iff, get?_insert]
      by_cases hk : k = x.1
      · subst hk
        simp [hnew x (.head _), Prod.ext_iff, eq_comm]
      · simp [hk, Prod.ext_iff]
    rw [List.foldl_cons, ih hrest hnew', hinsert, List.mem_cons, or_assoc]

/-- The map of entries whose keys differ holds these entries. -/
theorem mem_toList_ofList {entries : List (String × α)} (hkeys : (entries.map (·.1)).Nodup)
    (e : String × α) : e ∈ (ofList entries).toList ↔ e ∈ entries := by
  have h := mem_foldl_insert hkeys (fun x _ => get?_empty x.1) e
  exact h.trans (or_iff_right List.not_mem_nil)

theorem nodup_of_ascending {entries : List (String × α)} (h : Ascending entries) :
    (entries.map (·.1)).Nodup := by
  refine List.pairwise_map.2 (h.imp fun {a b} hab he => ?_)
  rw [he] at hab
  simp at hab

/-- **The map of a list** lists the same entries in ascending order. -/
theorem toList_ofList {entries sorted : List (String × α)} (hsorted : Ascending sorted)
    (hperm : sorted.Perm entries) : (ofList entries).toList = sorted := by
  have hkeys := (hperm.map (·.1)).nodup_iff.1 (nodup_of_ascending hsorted)
  refine toList_eq_of_lookup_eq (ofList entries).ascending hsorted fun key => ?_
  refine Option.ext fun a => ?_
  rw [lookup_eq_some_iff (ofList entries).ascending, lookup_eq_some_iff hsorted,
    mem_toList_ofList hkeys, hperm.mem_iff]

/-- A map is the map of its listing. -/
theorem ofList_toList (m : KeyedMap α) : ofList m.toList = m :=
  eq_of_toList_eq (toList_ofList m.ascending (List.Perm.refl _))

end KeyedMap

end AlertRelay
