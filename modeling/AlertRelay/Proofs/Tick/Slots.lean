/-
AlertRelay/Proofs/Tick/Slots.lean

One key for one check, almost.

A state is about one check of one entity, its slot, and is cached under a text made of both names
with a colon between them.  The names are free text.  So two slots have the same key if what stands
between two colons can be taken for the end of the entity or for the beginning of the check
(`key_eq_iff`), and there is no other way.

Every command that is about a key is meant for one slot: an upsert for that of its state, and a
tombstone for that of the one-shot state for which a tick has sent it (`Record.IsFor`).  The last
state of a slot stands under its key until a command comes that is meant for another slot with this
key, and no longer (`last_state_stands_iff`).  As long as no entity has a colon in its name there is
no such slot.
-/
import AlertRelay.Proofs.Tick.Traffic

namespace AlertRelay

/-! ### Slots -/

/-- One check of one entity. -/
structure Slot where
  entity : String
  check : String
deriving DecidableEq

/-- What a state is about. -/
def CachedState.slot (s : CachedState) : Slot :=
  ⟨s.event.entity, s.event.check⟩

namespace Slot

/-- The key of the states of a slot. -/
def key (a : Slot) : String :=
  a.entity ++ ":" ++ a.check

/-- The check of the first slot begins with what ends the entity of the second. -/
def Splits (a b : Slot) : Prop :=
  ∃ middle, b.entity = a.entity ++ ":" ++ middle ∧ a.check = middle ++ ":" ++ b.check

/-- Two slots get in each other's way. -/
def Collides (a b : Slot) : Prop :=
  a.Splits b ∨ b.Splits a

variable {a b : Slot}

theorem Splits.key_eq (h : a.Splits b) : a.key = b.key := by
  obtain ⟨middle, hentity, hcheck⟩ := h
  rw [key, key, hentity, hcheck]
  simp only [String.append_assoc]

/-- The entity of the second slot is the longer one. -/
theorem Splits.ne (h : a.Splits b) : a ≠ b := by
  rintro rfl
  obtain ⟨middle, hentity, -⟩ := h
  have hlength := congrArg String.length hentity
  have hcolon : ":".length = 1 := rfl
  simp only [String.length_append] at hlength
  omega

/-- The parts of a text at one of its colons. -/
theorem splits_of_key_eq {rest : List Char} (h : b.entity.toList = a.entity.toList ++ rest)
    (hrest : ':' :: a.check.toList = rest ++ ':' :: b.check.toList) : a = b ∨ a.Splits b := by
  cases rest with
  | nil =>
    left
    have hentity : a.entity = b.entity := by
      rw [← String.toList_inj, h, List.append_nil]
    have hcheck : a.check = b.check := by
      rw [← String.toList_inj]
      exact (List.cons.inj hrest).2
    cases a
    cases b
    simp_all
  | cons c middle =>
    right
    obtain ⟨rfl, hcheck⟩ := List.cons.inj hrest
    refine ⟨String.ofList middle, ?_, ?_⟩
    · rw [← String.toList_inj, h]
      simp
    · rw [← String.toList_inj, hcheck]
      simp

/-- **Two slots have the same key** exactly if they are one or get in each other's way. -/
theorem key_eq_iff : a.key = b.key ↔ a = b ∨ a.Collides b := by
  constructor
  · intro h
    have hlist : a.entity.toList ++ ':' :: a.check.toList =
        b.entity.toList ++ ':' :: b.check.toList := by
      have := congrArg String.toList h
      simpa [key] using this
    -- one of the entities begins the other one
    rcases List.append_eq_append_iff.1 hlist with ⟨rest, hentity, hrest⟩ | ⟨rest, hentity, hrest⟩
    · exact (splits_of_key_eq hentity hrest).imp id .inl
    · exact (splits_of_key_eq hentity hrest).imp Eq.symm .inr
  · rintro (rfl | h | h)
    · rfl
    · exact h.key_eq
    · exact h.key_eq.symm

/-- **Slots in each other's way** are different ones with the same key. -/
theorem collides_iff : a.Collides b ↔ a ≠ b ∧ a.key = b.key := by
  constructor
  · intro h
    refine ⟨?_, key_eq_iff.2 (.inr h)⟩
    exact h.elim Splits.ne fun h => h.ne.symm
  · rintro ⟨hne, hkey⟩
    exact (key_eq_iff.1 hkey).resolve_left hne

/-- Entities without a colon keep their slots apart. -/
theorem not_collides (ha : ':' ∉ a.entity.toList) (hb : ':' ∉ b.entity.toList) :
    ¬ a.Collides b := by
  rintro (⟨middle, hentity, -⟩ | ⟨middle, hentity, -⟩)
  · exact hb (by simp [hentity])
  · exact ha (by simp [hentity])

end Slot

theorem CachedState.slot_key (s : CachedState) : s.slot.key = s.key := rfl

/-! ### Commands and slots -/

namespace Record

/-- The command at a place is meant for a slot. -/
inductive IsFor (r : Record) (k : Nat) (a : Slot) : Prop where
  | upsert (s : CachedState) (entered : r.entered[k]? = some (.upsert s)) (slot : s.slot = a)
  /-- A tick has sent it after it had tried a one-shot state. -/
  | drop (t : Attempt) (tried : t ∈ r.attempts) (sent : (k, t.asked) ∈ r.drops)
      (oneShot : t.state.isOneShot = true)
      (entered : r.entered[k]? = some (.tombstone t.state.key)) (slot : t.state.slot = a)

variable {r : Record} {k : Nat} {a : Slot}

/-- What is meant for a slot is about its key. -/
theorem IsFor.key (h : r.IsFor k a) : ∃ c, r.entered[k]? = some c ∧ c.key? = some a.key := by
  cases h with
  | upsert s entered slot => exact ⟨_, entered, by rw [← slot]; rfl⟩
  | drop t tried sent oneShot entered slot => exact ⟨_, entered, by rw [← slot]; rfl⟩

/-- **Every command** that is about a key is meant for a slot with this key. -/
theorem Sound.exists_isFor (hs : r.Sound) {c : Command} {key : String}
    (hc : r.entered[k]? = some c) (hkey : c.key? = some key) :
    ∃ a : Slot, r.IsFor k a ∧ a.key = key := by
  cases c with
  | upsert s =>
    obtain rfl : s.key = key := Option.some.inj hkey
    exact ⟨s.slot, .upsert s hc rfl, rfl⟩
  | tombstone key' =>
    obtain rfl : key' = key := Option.some.inj hkey
    obtain ⟨m, hm⟩ := hs.tombstone k key' hc
    obtain ⟨t, ht, rfl, hone, hdrop⟩ := (hs.drop k m hm).reason
    obtain rfl : key' = t.state.key := by
      rw [hc] at hdrop
      exact Command.tombstone.inj (Option.some.inj hdrop)
    exact ⟨t.state.slot, .drop t ht hm hone hc rfl, rfl⟩
  | snapshot ticket => cases hkey

/-- **The last state of a slot** stands under its key as long as no command comes that is meant for
a slot in its way. -/
theorem Sound.last_stands_iff (hs : r.Sound) {n j : Nat} {s : CachedState} (hjn : j < n)
    (hj : r.entered[j]? = some (.upsert s))
    (hlast : ∀ k, j < k → k < n → ¬ r.IsFor k s.slot) :
    (replay (r.entered.take n)).get? s.key = some s ↔
      ∀ k a, j < k → k < n → r.IsFor k a → ¬ a.Collides s.slot := by
  rw [get?_replay_eq_some_iff]
  constructor
  · rintro ⟨-, i, hi⟩ k a hjk hkn hfor hcollides
    obtain ⟨hin, hentered, hquiet⟩ := holds_take_iff.1 hi
    -- the command that holds the state is the last one for its slot
    have hij : i = j := by
      rcases Nat.lt_trichotomy i j with hlt | heq | hgt
      · exact absurd rfl (hquiet j _ hlt hjn hj)
      · exact heq
      · exact absurd (.upsert s hentered rfl) (hlast i hgt hin)
    subst hij
    obtain ⟨c, hc, hkey⟩ := hfor.key
    refine hquiet k c hjk hkn hc ?_
    rw [hkey, (Slot.collides_iff.1 hcollides).2, s.slot_key]
  · intro hfree
    refine ⟨rfl, j, holds_take_iff.2 ⟨hjn, hj, fun k c hjk hkn hc hkey => ?_⟩⟩
    obtain ⟨a, hfor, ha⟩ := hs.exists_isFor hc hkey
    rcases Slot.key_eq_iff.1 (ha.trans s.slot_key.symm) with rfl | hcollides
    · exact hlast k hjk hkn hfor
    · exact hfree k a hjk hkn hfor hcollides

end Record

namespace Traffic

/-- **What a check can rely on.**  A question is answered with what the commands before it have
left.  After so many commands the last state that was meant for a slot stands under its key, unless
a later command was meant for another slot with the same key.  Such slots are those in which the
colon of the one stands inside a name of the other. -/
theorem last_state_stands_iff (i : Intake) (queue : Queue) (delivery : Delivery)
    (moves : List Move) :
    (∀ a b : Slot, a.Collides b ↔ a ≠ b ∧ a.key = b.key) ∧
      Follows ((ofIntake i queue delivery).run moves).record.entered
        ((ofIntake i queue delivery).run moves).applied
        ((ofIntake i queue delivery).run moves).relay.store ∧
      (∀ n ticket : Nat,
        ((ofIntake i queue delivery).run moves).record.entered[n]? = some (.snapshot ticket) →
        n < ((ofIntake i queue delivery).run moves).applied →
        ((ofIntake i queue delivery).run moves).relay.store.answerTo ticket =
          .ended (.ok (replay (((ofIntake i queue delivery).run moves).record.entered.take n)))) ∧
      ∀ (n j : Nat) (s : CachedState), j < n →
        ((ofIntake i queue delivery).run moves).record.entered[j]? = some (.upsert s) →
        (∀ k, j < k → k < n → ¬ ((ofIntake i queue delivery).run moves).record.IsFor k s.slot) →
        ((replay (((ofIntake i queue delivery).run moves).record.entered.take n)).get? s.key =
            some s ↔
          ∀ k a, j < k → k < n → ((ofIntake i queue delivery).run moves).record.IsFor k a →
            ¬ a.Collides s.slot) := by
  have hv := sound_run i queue delivery moves
  refine ⟨fun a b => Slot.collides_iff, hv.follows, fun n ticket hn happlied => ?_,
    fun n j s hjn hj hlast => hv.record.last_stands_iff hjn hj hlast⟩
  rw [hv.follows.answerTo_eq hn, if_pos happlied]

/-! ### Two checks under one key -/

/-- The root volume of `web`. -/
def rootVolume : CachedState :=
  ⟨.service "web" "disk:root" "critical" "full" 1700000000, 300⟩

/-- The root check of `web:disk`. -/
def rootCheck : CachedState :=
  ⟨.service "web:disk" "root" "ok" "fine" 1700000000, 300⟩

/-- Both are reported, and the owner applies what waits. -/
def bothReported : List Move :=
  [.start, .upsert rootVolume, .upsert rootCheck, .take, .take]

theorem collides_rootCheck : rootCheck.slot.Collides rootVolume.slot :=
  .inr ⟨"disk", by decide, by decide⟩

theorem last_state_stands_iff_bothReported :
    (∀ k, 0 < k → k < 2 →
      ¬ ((ofIntake {} {} {}).run bothReported).record.IsFor k rootVolume.slot) ∧
      (replay (((ofIntake {} {} {}).run bothReported).record.entered.take 2)).get?
        rootVolume.key ≠ some rootVolume := by
  have hlast : ∀ k, 0 < k → k < 2 →
      ¬ ((ofIntake {} {} {}).run bothReported).record.IsFor k rootVolume.slot := by
    intro k hk hk2 hfor
    obtain rfl : k = 1 := by omega
    cases hfor with
    | upsert s entered slot =>
      obtain rfl : rootCheck = s := Command.upsert.inj (Option.some.inj entered)
      exact absurd slot (by decide)
    | drop t tried sent oneShot entered slot => cases tried
  refine ⟨hlast, fun hstands => ?_⟩
  have hiff := (last_state_stands_iff {} {} {} bothReported).2.2.2 2 0 rootVolume (by decide) rfl
    hlast
  exact hiff.1 hstands 1 rootCheck.slot (by decide) (by decide) (.upsert rootCheck rfl rfl)
    collides_rootCheck

/-- **A check can lose its slot to another one**: nothing has been removed, and only the second of
two checks is cached. -/
theorem root_volume_replaced :
    rootVolume.slot ≠ rootCheck.slot ∧
      ((ofIntake {} {} {}).run bothReported).relay.store.owner = .running ∧
      ((ofIntake {} {} {}).run bothReported).record.entered =
        [.upsert rootVolume, .upsert rootCheck] ∧
      ((ofIntake {} {} {}).run bothReported).record.drops = [] ∧
      ((ofIntake {} {} {}).run bothReported).relay.store.waiting = [] ∧
      ((ofIntake {} {} {}).run bothReported).relay.store.cached.toList =
        [("web:disk:root", rootCheck)] :=
  ⟨by decide, rfl, rfl, rfl, rfl, by decide⟩

end Traffic

end AlertRelay
