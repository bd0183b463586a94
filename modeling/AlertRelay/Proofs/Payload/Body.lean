/-
AlertRelay/Proofs/Payload/Body.lean

The members of a body.

A body is read if it is the text of an object (`ofBody_eq_ok_iff`).  After that nothing looks at the
text again, and of each name only the last member is ever seen (`lastOf`): so a statement about a
body can speak of the object, as it was written, and of these members alone.

A member can be left out or `null`, and one that is neither has to be of its kind (`Holds`).
-/
import AlertRelay.Payload
import AlertRelay.Proofs.Json.Record

namespace AlertRelay

/-! ### Look-ups -/

namespace KeyedMap

variable {α : Type}

theorem get?_foldl_insert (entries : List (String × α)) (m : KeyedMap α) (key : String) :
    (entries.foldl (fun m e => m.insert e.1 e.2) m).get? key =
      (lookup key entries.reverse).or (m.get? key) := by
  induction entries generalizing m with
  | nil => simp [lookup]
  | cons e entries ih =>
    have happend : ∀ l : List (String × α), lookup key (l ++ [e]) =
        (lookup key l).or (if key = e.1 then some e.2 else none) := by
      intro l
      induction l with
      | nil => simp [lookup]
      | cons x l ihl =>
        rw [List.cons_append, lookup, lookup, ihl]
        split_ifs <;> simp
    rw [List.foldl_cons, ih, get?_insert, List.reverse_cons, happend]
    cases lookup key entries.reverse with
    | some a => rfl
    | none => split_ifs <;> rfl

/-- **Of entries with the same key** the map of a list holds the last. -/
theorem get?_ofList (entries : List (String × α)) (key : String) :
    (ofList entries).get? key = lookup key entries.reverse := by
  rw [ofList, get?_foldl_insert, get?_empty, Option.or_none]

theorem get?_map {β : Type} (m : KeyedMap α) (f : α → β) (key : String) :
    (m.map f).get? key = (m.get? key).map f := by
  obtain ⟨entries, hascending⟩ := m
  show lookup key (entries.map fun e => (e.1, f e.2)) = (lookup key entries).map f
  induction entries with
  | nil => rfl
  | cons e entries ih =>
    rw [List.map_cons, lookup, lookup]
    split_ifs
    · rfl
    · exact ih (List.pairwise_cons.1 hascending).2

/-- What is found is an entry. -/
theorem mem_of_lookup {key : String} {a : α} {entries : List (String × α)}
    (h : lookup key entries = some a) : (key, a) ∈ entries := by
  induction entries with
  | nil => cases h
  | cons e entries ih =>
    rw [lookup] at h
    split_ifs at h with hkey
    · cases h
      rw [hkey]
      exact List.mem_cons_self
    · exact List.mem_cons_of_mem _ (ih h)

end KeyedMap

namespace Json

/-! ### Members -/

/-- What an object says under a name: the last member of it. -/
def lastOf (ms : Members) (name : String) : Option Json :=
  KeyedMap.lookup name ms.reverse

theorem get?_settled (ms : Members) (name : String) :
    (settled ms).get? name = (lastOf ms name).map arranged := by
  rw [settled, KeyedMap.get?_map, KeyedMap.get?_ofList, lastOf]

/-- A value of some kind, or `null` for a default. -/
def OrNull {α : Type} (P : α → Json → Prop) (default : α) (a : α) : Json → Prop
  | .null => a = default
  | v => P a v

/-- **What a member holds**: a value of its kind, or a default if it is left out or `null`. -/
abbrev Holds {α : Type} (P : α → Json → Prop) (default : α) : Option Json → α → Prop :=
  Given (OrNull P default) default

/-- The text of an object, taken apart. -/
theorem Spells.of_object {depth : Nat} {ms : Members} {t : Bytes}
    (h : Spells depth (.object ms) t) :
    ∃ (d : Nat) (ps : List (String × Json × Bytes)) (u : Bytes), depth = d + 1 ∧
      ms = ps.map (fun p => (p.1, p.2.1)) ∧ (∀ p ∈ ps, Spells d p.2.1 p.2.2) ∧
      Fields Named (ps.map fun p => (p.1, p.2.2)) u ∧ t = 0x7b :: (u ++ [0x7d]) := by
  generalize hv : Json.object ms = v at h
  cases h with
  | scalar scalar =>
    subst hv
    cases scalar
  | array _ _ => cases hv
  | object members text =>
    cases hv
    exact ⟨_, _, _, rfl, rfl, members, text, rfl⟩

/-- A whole number in a text is a number of 64 bits. -/
theorem Spells.isWhole {depth : Nat} {n : Int} {t : Bytes} (h : Spells depth (.integer n) t) :
    IsWhole n := by
  generalize hv : Json.integer n = v at h
  cases h with
  | scalar scalar =>
    subst hv
    cases scalar with
    | integer whole => exact whole
  | array _ _ => cases hv
  | object _ _ => cases hv

theorem isWhole_of_mem {ms : Members} {raw : Bytes} (h : IsText (.object ms) raw) {name : String}
    {n : Int} (hm : (name, Json.integer n) ∈ ms) : IsWhole n := by
  obtain ⟨l, t, r, -, ht, -, -⟩ := h
  obtain ⟨d, ps, u, -, rfl, hps, -, -⟩ := ht.of_object
  obtain ⟨p, hp, he⟩ := List.mem_map.1 hm
  obtain ⟨-, hvalue⟩ := Prod.mk.inj he
  have hspells := hps p hp
  rw [hvalue] at hspells
  exact hspells.isWhole

/-- What an object says is one of its members. -/
theorem mem_of_lastOf {ms : Members} {name : String} {v : Json} (h : lastOf ms name = some v) :
    (name, v) ∈ ms :=
  List.mem_reverse.1 (KeyedMap.mem_of_lookup h)

end Json

namespace Payload

open Json (IsText Spells Reads)

/-! ### Bodies -/

/-- A reader of the members of an object takes the texts of objects. -/
theorem reads_readMembers :
    Reads readMembers fun ms t => Spells Json.maxDepth (.object ms) t where
  sound := by
    intro s ms rest h
    unfold readMembers at h
    split at h
    · rename_i tail hs
      obtain ⟨l, hl, rfl⟩ := Json.skipBlank_eq_cons hs
      obtain ⟨ps, rfl, hps, t, ht, rfl⟩ := (Json.members_eq_ok_iff (Json.reads_value _)).1 h
      exact ⟨l, _, hl, .object hps ht, by simp⟩
    · exact absurd h (Json.mismatch_ne_ok _ _ _)
  complete := by
    intro l t ms rest hl ht hrest
    obtain ⟨d, ps, u, hd, rfl, hps, hu, rfl⟩ := ht.of_object
    obtain rfl : d = Json.maxDepth - 1 := by omega
    have htext : l ++ (0x7b :: (u ++ [0x7d]) ++ rest) = l ++ 0x7b :: (u ++ 0x7d :: rest) := by simp
    rw [htext, readMembers, hl.skipBlank_cons (b := 0x7b) (by decide)]
    exact (Json.members_eq_ok_iff (Json.reads_value _)).2 ⟨ps, rfl, hps, u, hu, rfl⟩
  starts := Spells.starts

/-- **A body is read** if it is the text of an object. -/
theorem ofBody_eq_ok_iff {raw : Bytes} {m : KeyedMap Json} :
    ofBody raw = .ok m ↔ ∃ ms, IsText (.object ms) raw ∧ m = Json.settled ms := by
  have hwhole : ∀ ms, Json.readWhole readMembers raw = .ok ms ↔ IsText (.object ms) raw :=
    fun ms => reads_readMembers.readWhole_eq_ok_iff
  unfold ofBody
  cases hread : Json.readWhole readMembers raw with
  | error c =>
    constructor
    · intro h
      cases h
    · rintro ⟨ms, htext, -⟩
      rw [(hwhole ms).2 htext] at hread
      cases hread
  | ok ms =>
    constructor
    · intro h
      cases h
      exact ⟨ms, (hwhole ms).1 hread, rfl⟩
    · rintro ⟨ms', htext, rfl⟩
      rw [(hwhole ms').2 htext] at hread
      cases hread
      rfl

theorem ofBody_of_isText {raw : Bytes} {ms : Json.Members} (h : IsText (.object ms) raw) :
    ofBody raw = .ok (Json.settled ms) :=
  ofBody_eq_ok_iff.2 ⟨ms, h, rfl⟩

end Payload

end AlertRelay
