/-
AlertRelay/Proofs/Tick/Removal.lean

How a state leaves the cache.

A state is cached because of a command (`Caches`), and it leaves when the owner takes a later
command about its key.  If that is an upsert, it has been replaced.  If it is a tombstone, some tick
sent it for a one-shot state that it had tried; but a tombstone names a key, and the owner removes
whatever stands there when it takes the tombstone.  That is the state that was tried if it had been
cached when the tick asked.  If it was cached later it is lost, one-shot or not: nothing has tried
it (`removed_iff_tried`).
-/
import AlertRelay.Proofs.Tick.Traffic

namespace AlertRelay

namespace Traffic

variable {v : Traffic}

/-- A state is cached under its key, because of command `j`. -/
structure Caches (v : Traffic) (j : Nat) (s : CachedState) : Prop where
  cached : v.relay.store.cached.get? s.key = some s
  holds : Holds (v.record.entered.take v.applied) j s

/-- **What is cached** is what the applied commands hold. -/
theorem Sound.caches_iff (hv : Sound v) {j : Nat} {s : CachedState} :
    v.Caches j s ↔ Holds (v.record.entered.take v.applied) j s := by
  refine ⟨fun hc => hc.holds, fun hj => ⟨?_, hj⟩⟩
  rw [hv.follows.cached, get?_replay_eq_some_iff]
  exact ⟨rfl, j, hj⟩

/-! ### Moves that remove nothing -/

/-- Commands that have entered stay where they are. -/
theorem entered_act (v : Traffic) (move : Move) :
    v.record.entered <+: (v.act move).record.entered := by
  have hmoved := v.moved move
  generalize v.act move = w at hmoved
  cases hmoved with
  | submits s store offer => exact List.prefix_append _ _
  | looks store offer => exact List.prefix_append _ _
  | asks store stage offer => exact List.prefix_append _ _
  | drops key rest store stage offer => exact List.prefix_append _ _
  | _ => exact List.prefix_refl _

/-- Only the owner applies commands. -/
theorem applied_act_of_ne (v : Traffic) {move : Move} (hm : move ≠ .take) :
    (v.act move).applied = v.applied := by
  have hmoved := v.moved move
  generalize v.act move = w at hmoved
  cases hmoved with
  | takes => exact absurd rfl hm
  | _ => rfl

/-- **The cache** changes when the owner takes a command, and not otherwise. -/
theorem Sound.caches_act_of_ne (hv : Sound v) {move : Move} (hm : move ≠ .take) {j : Nat}
    {s : CachedState} (hs : v.Caches j s) : (v.act move).Caches j s := by
  obtain ⟨more, hmore⟩ := entered_act v move
  rw [(hv.act move).caches_iff, applied_act_of_ne v hm, ← hmore,
    List.take_append_of_le_length hv.follows.le_length]
  exact hs.holds

/-! ### What removes a state -/

/-- It applies one at a time. -/
theorem applied_take (v : Traffic) :
    (v.act .take).applied = v.applied ∨ (v.act .take).applied = v.applied + 1 := by
  have hmoved := v.moved .take
  generalize v.act .take = w at hmoved
  cases hmoved with
  | rests => exact .inl rfl
  | takes => exact .inr rfl

/-- A state that leaves makes room for a command about its key, the next one to be applied. -/
theorem Sound.next_of_removed (hv : Sound v) {move : Move} {j : Nat} {s : CachedState}
    (hcached : v.Caches j s) (hgone : ¬ (v.act move).Caches j s) :
    ∃ c, v.record.entered[v.applied]? = some c ∧ c.key? = some s.key := by
  by_cases hm : move = .take
  · subst hm
    have happlied := applied_take v
    have hle : v.applied ≤ (v.act .take).applied := by omega
    by_contra hnone
    -- With no command about the key among the applied ones the state would still be there.
    obtain ⟨hj, hu, hquiet⟩ := holds_take_iff.1 hcached.holds
    apply hgone
    rw [(hv.act .take).caches_iff, holds_take_iff]
    refine ⟨?_, hu, fun k c hjk hk hc hkey => ?_⟩
    · exact Nat.lt_of_lt_of_le hj hle
    · rcases Nat.lt_or_ge k v.applied with hlt | hge
      · exact hquiet k c hjk hlt hc hkey
      · have hkn : k = v.applied := by omega
        exact hnone ⟨c, hkn ▸ hc, hkey⟩
  · exact absurd (hv.caches_act_of_ne hm hcached) hgone

/-- **How a state leaves the cache.**  A later upsert of its key replaces it, or a tombstone removes
it that a tick had sent.  In the second case the state is a one-shot state that a tick had tried
exactly if it had been cached before the snapshot of the tick that sent the tombstone, which stands
at place `m` of the history. -/
theorem removed_iff_tried (i : Intake) (queue : Queue) (delivery : Delivery) (moves : List Move)
    (move : Move) (j : Nat) (s : CachedState)
    (hcached : ((ofIntake i queue delivery).run moves).Caches j s)
    (hgone : ¬ (((ofIntake i queue delivery).run moves).act move).Caches j s) :
    (∃ t, ((ofIntake i queue delivery).run moves).record.entered[
          ((ofIntake i queue delivery).run moves).applied]? = some (.upsert t) ∧
        t.key = s.key) ∨
      ∃ m ticket, ((ofIntake i queue delivery).run moves).record.entered[m]? =
          some (.snapshot ticket) ∧
        ((ofIntake i queue delivery).run moves).record.Drop
          ((ofIntake i queue delivery).run moves).applied m ∧
        ((ofIntake i queue delivery).run moves).record.entered[
          ((ofIntake i queue delivery).run moves).applied]? = some (.tombstone s.key) ∧
        (((ofIntake i queue delivery).run moves).record.Tried j s ↔ j < m) := by
  have hv := sound_run i queue delivery moves
  generalize (ofIntake i queue delivery).run moves = v at hv hcached hgone ⊢
  obtain ⟨c, hc, hkey⟩ := hv.next_of_removed hcached hgone
  cases c with
  | upsert t => exact .inl ⟨t, hc, by simpa [Command.key?] using hkey⟩
  | tombstone key =>
    obtain rfl : key = s.key := by simpa [Command.key?] using hkey
    obtain ⟨m, hm⟩ := hv.record.tombstone _ _ hc
    have hdrop := hv.record.drop _ m hm
    obtain ⟨a, ha, ham, -, -⟩ := hdrop.reason
    obtain ⟨ticket, ht⟩ := hv.record.snapshot a ha
    rw [ham] at ht
    exact .inr ⟨m, ticket, ht, hdrop, hc, hv.record.tried_iff hm hc hcached.holds⟩
  | snapshot ticket => cases hkey

/-! ### A state that is lost -/

/-- A deployment that has begun; the state is sent once. -/
def begun : CachedState :=
  ⟨.service "web1" "deploy" "ok" "begun" 1700000000, -1⟩

/-- The same deployment, which is over; the state is sent again and again. -/
def concluded : CachedState :=
  ⟨.service "web1" "deploy" "ok" "concluded" 1700000000, 300⟩

/-- A tick finds that the deployment has begun.  Before it drops this, the deployment is over. -/
def overtaken : List Move :=
  [.start, .upsert begun, .begin 1700000060, .step, .take, .take, .step, .upsert concluded, .step,
    .step, .take]

theorem caches_concluded : ((ofIntake {} {} {}).run overtaken).Caches 2 concluded := by
  rw [(sound_run {} {} {} overtaken).caches_iff, holds_take_iff]
  refine ⟨?_, rfl, fun k c hk hk3 => ?_⟩
  · show 2 < 3
    omega
  · have hk3 : k < 3 := hk3
    omega

theorem not_caches_concluded :
    ¬ (((ofIntake {} {} {}).run overtaken).act .take).Caches 2 concluded := by
  intro hc
  have hgone : (((ofIntake {} {} {}).run overtaken).act .take).relay.store.cached = ∅ := by
    decide
  have hnone := hc.cached
  rw [hgone] at hnone
  cases hnone

theorem removed_iff_tried_overtaken :
    (∃ t, ((ofIntake {} {} {}).run overtaken).record.entered[3]? = some (.upsert t) ∧
        t.key = concluded.key) ∨
      ∃ m ticket, ((ofIntake {} {} {}).run overtaken).record.entered[m]? =
          some (.snapshot ticket) ∧
        ((ofIntake {} {} {}).run overtaken).record.Drop 3 m ∧
        ((ofIntake {} {} {}).run overtaken).record.entered[3]? = some (.tombstone concluded.key) ∧
        (((ofIntake {} {} {}).run overtaken).record.Tried 2 concluded ↔ 2 < m) :=
  removed_iff_tried {} {} {} overtaken .take 2 concluded caches_concluded not_caches_concluded

/-- **An accepted update can be lost to a tick**: it is cached, no one-shot state, and removed by a
tombstone. -/
theorem overtaken_update_lost :
    ((ofIntake {} {} {}).run overtaken).relay.store.owner = .running ∧
      ((ofIntake {} {} {}).run overtaken).Caches 2 concluded ∧
      ¬ (((ofIntake {} {} {}).run overtaken).act .take).Caches 2 concluded ∧
      ((ofIntake {} {} {}).run overtaken).record.entered =
        [.upsert begun, .snapshot 0, .upsert concluded, .tombstone concluded.key] ∧
      concluded.isOneShot = false :=
  ⟨rfl, caches_concluded, not_caches_concluded, rfl, by decide⟩

end Traffic

end AlertRelay
