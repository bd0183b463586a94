/-
AlertRelay/Proofs/Store/History.lean

What a history of commands comes to.

A history is a list of commands in the order in which they entered the intake; a command is named
by its place in it.  The cached states after a history are what is left when all its commands have
been applied to nothing, one after the other (`replay`).

Two closer looks at that:

* what later commands say about one key (`lastWord`), which settles what a continuation of a
  history changes (`get?_replay_append`);
* which command is responsible for what stands under a key.  `Holds h i s` says that command `i` of
  `h` cached `s` and that no later command of `h` is about its key.  Then the states after `h` are
  exactly those that some command holds (`get?_replay_eq_some_iff`), and no two commands hold a
  state under the same key (`Holds.unique`).

Two updates that cache equal states are different commands, so `Holds` tells them apart where a
look-up could not.
-/
import AlertRelay.Store
import Mathlib.Data.List.Induction

namespace AlertRelay

/-- An entry of a list with one more is an entry of the list or the new one. -/
theorem getElem?_append_singleton_eq_some {α : Type} {l : List α} {a b : α} {k : Nat}
    (h : (l ++ [a])[k]? = some b) : l[k]? = some b ∨ (k = l.length ∧ a = b) := by
  rcases Nat.lt_or_ge k l.length with hlt | hge
  · rw [List.getElem?_append_left hlt] at h
    exact .inl h
  · have hk : k = l.length := by
      have := (List.getElem?_eq_some_iff.1 h).1
      simp at this
      omega
    subst hk
    exact .inr ⟨rfl, by simpa using h⟩

/-! ### Commands and keys -/

namespace Command

/-- The key that a command is about; asking for the states is about none. -/
def key? : Command → Option String
  | .upsert s => some s.key
  | .tombstone key => some key
  | .snapshot _ => none

/-- What a command leaves under its key. -/
def leaves : Command → Option CachedState
  | .upsert s => some s
  | .tombstone _ => none
  | .snapshot _ => none

/-- **A command** changes the look-up at its own key only. -/
theorem get?_apply (c : Command) (m : States) (key : String) :
    (c.apply m).get? key = if c.key? = some key then c.leaves else m.get? key := by
  cases c with
  | upsert s => simp [apply, key?, leaves, KeyedMap.get?_insert, eq_comm]
  | tombstone k => simp [apply, key?, leaves, KeyedMap.get?_erase, eq_comm]
  | snapshot ticket => simp [apply, key?]

end Command

/-! ### Replaying -/

/-- The cached states after a history. -/
def replay (h : List Command) : States :=
  h.foldl Command.apply ∅

@[simp] theorem replay_nil : replay [] = ∅ := rfl

theorem replay_append_singleton (h : List Command) (c : Command) :
    replay (h ++ [c]) = c.apply (replay h) := by
  simp [replay]

/-- What later commands leave under a key; nothing if none of them is about it. -/
def lastWord (key : String) : List Command → Option (Option CachedState)
  | [] => none
  | c :: later =>
    (lastWord key later).or (if c.key? = some key then some c.leaves else none)

theorem get?_foldl_apply (later : List Command) (m : States) (key : String) :
    (later.foldl Command.apply m).get? key = (lastWord key later).getD (m.get? key) := by
  induction later generalizing m with
  | nil => rfl
  | cons c later ih =>
    rw [List.foldl_cons, ih, Command.get?_apply, lastWord]
    cases lastWord key later with
    | some word => rfl
    | none => split <;> rfl

/-- **A continuation** of a history decides about the keys that it speaks of and leaves the others
alone. -/
theorem get?_replay_append (h later : List Command) (key : String) :
    (replay (h ++ later)).get? key = (lastWord key later).getD ((replay h).get? key) := by
  rw [replay, List.foldl_append]
  exact get?_foldl_apply later (replay h) key

/-- A continuation changes nothing exactly if, under every key, it says last what stands there. -/
theorem replay_append_eq_iff (h later : List Command) :
    replay (h ++ later) = replay h ↔
      ∀ key word, lastWord key later = some word → (replay h).get? key = word := by
  constructor
  · intro heq key word hword
    have := get?_replay_append h later key
    rw [heq, hword] at this
    exact this
  · intro hall
    refine KeyedMap.ext_get? fun key => ?_
    rw [get?_replay_append]
    cases hw : lastWord key later with
    | none => rfl
    | some word => exact (hall key word hw).symm

/-! ### Who is responsible -/

/-- Command `i` of a history cached `s`, and no later command is about the key of `s`. -/
structure Holds (h : List Command) (i : Nat) (s : CachedState) : Prop where
  upsert : h[i]? = some (.upsert s)
  silence : ∀ j c, i < j → h[j]? = some c → c.key? ≠ some s.key

theorem Holds.lt_length {h : List Command} {i : Nat} {s : CachedState} (hi : Holds h i s) :
    i < h.length :=
  (List.getElem?_eq_some_iff.1 hi.upsert).1

/-- **Under one key** at most one command holds a state. -/
theorem Holds.unique {h : List Command} {i j : Nat} {s t : CachedState} (hi : Holds h i s)
    (hj : Holds h j t) (hk : s.key = t.key) : i = j ∧ s = t := by
  have hij : i = j := by
    rcases Nat.lt_trichotomy i j with hlt | heq | hgt
    · exact absurd (congrArg some hk.symm) (hi.silence j _ hlt hj.upsert)
    · exact heq
    · exact absurd (congrArg some hk) (hj.silence i _ hgt hi.upsert)
  subst hij
  have := hi.upsert.symm.trans hj.upsert
  simpa using this

theorem holds_append_singleton {h : List Command} {c : Command} {i : Nat} {s : CachedState} :
    Holds (h ++ [c]) i s ↔
      (i = h.length ∧ c = .upsert s) ∨ (Holds h i s ∧ c.key? ≠ some s.key) := by
  constructor
  · intro hi
    rcases getElem?_append_singleton_eq_some hi.upsert with hold | ⟨rfl, hc⟩
    · have hlt : i < h.length := (List.getElem?_eq_some_iff.1 hold).1
      refine .inr ⟨⟨hold, fun j d hij hj => ?_⟩, ?_⟩
      · have hjlt : j < h.length := (List.getElem?_eq_some_iff.1 hj).1
        exact hi.silence j d hij (by rw [List.getElem?_append_left hjlt, hj])
      · exact hi.silence h.length c hlt (by simp)
    · exact .inl ⟨rfl, hc⟩
  · rintro (⟨rfl, rfl⟩ | ⟨hi, hc⟩)
    · refine ⟨by simp, fun j d hj hd => ?_⟩
      rw [List.getElem?_eq_none (by simp; omega)] at hd
      cases hd
    · refine ⟨?_, fun j d hij hd => ?_⟩
      · rw [List.getElem?_append_left hi.lt_length, hi.upsert]
      · rcases getElem?_append_singleton_eq_some hd with hold | ⟨-, rfl⟩
        · exact hi.silence j d hij hold
        · exact hc

/-- **The states after a history** are those that its commands hold. -/
theorem get?_replay_eq_some_iff (h : List Command) (key : String) (s : CachedState) :
    (replay h).get? key = some s ↔ s.key = key ∧ ∃ i, Holds h i s := by
  induction h using List.reverseRecOn with
  | nil =>
    constructor
    · intro hn
      simp at hn
    · rintro ⟨-, i, hi⟩
      simpa using hi.lt_length
  | append_singleton h c ih =>
    rw [replay_append_singleton, Command.get?_apply]
    simp only [holds_append_singleton]
    by_cases hc : c.key? = some key
    · rw [if_pos hc]
      constructor
      · intro hl
        cases c with
        | upsert t =>
          obtain rfl : t = s := by simpa [Command.leaves] using hl
          exact ⟨by simpa [Command.key?] using hc, h.length, .inl ⟨rfl, rfl⟩⟩
        | tombstone k => simp [Command.leaves] at hl
        | snapshot ticket => simp [Command.leaves] at hl
      · rintro ⟨rfl, i, ⟨-, rfl⟩ | ⟨-, hne⟩⟩
        · rfl
        · exact absurd hc hne
    · rw [if_neg hc, ih]
      constructor
      · rintro ⟨rfl, i, hi⟩
        exact ⟨rfl, i, .inr ⟨hi, hc⟩⟩
      · rintro ⟨rfl, i, ⟨-, rfl⟩ | ⟨hi, -⟩⟩
        · exact absurd rfl hc
        · exact ⟨rfl, i, hi⟩

/-! ### Beginnings of a history -/

/-- A command that holds a state at some time holds it until a command about its key comes. -/
theorem holds_take_iff {h : List Command} {n i : Nat} {s : CachedState} :
    Holds (h.take n) i s ↔ i < n ∧ h[i]? = some (.upsert s) ∧
      ∀ j c, i < j → j < n → h[j]? = some c → c.key? ≠ some s.key := by
  constructor
  · intro hi
    have hin : i < n := by
      have := hi.lt_length
      simp at this
      omega
    refine ⟨hin, ?_, fun j c hij hjn hj => ?_⟩
    · rw [← hi.upsert, List.getElem?_take_of_lt hin]
    · exact hi.silence j c hij (by rw [List.getElem?_take_of_lt hjn, hj])
  · rintro ⟨hin, hu, hq⟩
    refine ⟨by rw [List.getElem?_take_of_lt hin, hu], fun j c hij hj => ?_⟩
    have hjn : j < n := by
      have := (List.getElem?_eq_some_iff.1 hj).1
      simp at this
      omega
    exact hq j c hij hjn (by rwa [List.getElem?_take_of_lt hjn] at hj)

theorem Holds.take_of_le {h : List Command} {m n i : Nat} {s : CachedState}
    (hi : Holds (h.take n) i s) (him : i < m) (hmn : m ≤ n) : Holds (h.take m) i s := by
  obtain ⟨-, hu, hq⟩ := holds_take_iff.1 hi
  exact holds_take_iff.2 ⟨him, hu, fun j c hij hjm => hq j c hij (Nat.lt_of_lt_of_le hjm hmn)⟩

end AlertRelay
