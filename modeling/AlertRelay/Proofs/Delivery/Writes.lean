/-
AlertRelay/Proofs/Delivery/Writes.lean

How many payloads the lists hold.

The lists are counted together, so it does not matter to which of them a payload goes: each one that
is put counts once (`writes_put`).  A complete event is put with its mark, if its consumers wait for
one, and an event that lacks something is not put at all (`writes_send_of_open`).
-/
import AlertRelay.Proofs.Delivery.Lists

namespace AlertRelay

namespace Queue

/-- How many payloads some lists hold. -/
def held : List (String × List Bytes) → Nat
  | [] => 0
  | e :: rest => e.2.length + held rest

theorem foldl_eq_held (n : Nat) (entries : List (String × List Bytes)) :
    entries.foldl (fun n e => n + e.2.length) n = n + held entries := by
  induction entries generalizing n with
  | nil => rfl
  | cons e rest ih => rw [List.foldl_cons, ih, held, Nat.add_assoc]

theorem writes_eq_held (q : Queue) : q.writes = held q.lists.toList := by
  rw [writes, foldl_eq_held, Nat.zero_add]

/-- A payload more on one list, which may be new. -/
theorem held_place (name : String) (payload : Bytes) {entries : List (String × List Bytes)}
    (h : Ascending entries) :
    held (KeyedMap.place name (payload :: (KeyedMap.lookup name entries).getD []) entries) =
      held entries + 1 := by
  induction entries with
  | nil => rfl
  | cons e rest ih =>
    obtain ⟨k, l⟩ := e
    obtain ⟨hk, hrest⟩ := List.pairwise_cons.1 h
    rw [KeyedMap.place]
    split
    · -- the name comes before all others, so nothing has been put there
      rename_i hlt
      have hnone : KeyedMap.lookup name ((k, l) :: rest) = none := by
        refine KeyedMap.lookup_eq_none_of_lt fun e he => ?_
        rcases List.mem_cons.1 he with rfl | he
        · exact hlt
        · exact Std.TransCmp.lt_trans hlt (hk e he)
      simp [held, hnone, Nat.add_comm]
    · rename_i heq
      obtain rfl : name = k := Std.LawfulEqCmp.eq_of_compare heq
      simp [held, KeyedMap.lookup, Nat.add_right_comm]
    · rename_i hgt
      have hne : name ≠ k := by
        rintro rfl
        simp at hgt
      have hlater := ih hrest
      simp only [held, KeyedMap.lookup, if_neg hne] at hlater ⊢
      omega

/-- **Putting** a payload counts once. -/
theorem writes_put (q : Queue) (name : String) (payload : Bytes) :
    (q.put name payload).writes = q.writes + 1 := by
  rw [writes_eq_held, writes_eq_held]
  exact held_place name payload q.lists.ascending

end Queue

namespace Delivery

/-- How many payloads are put for an event. -/
def pushes (d : Delivery) (e : Event) : Nat :=
  if e.IsComplete then (if 2 ≤ d.version then 2 else 1) else 0

variable {q : Queue}

theorem writes_send_of_open (d : Delivery) (e : Event) (hq : q.Open) :
    (d.send e q).2.writes = q.writes + d.pushes e := by
  have hsent := d.sent e q
  generalize d.send e q = result at hsent ⊢
  cases hsent with
  | lacks f missing =>
    have hnot : ¬ e.IsComplete := fun hc => by
      rw [Event.missing?_eq_none_iff.2 hc] at missing
      cases missing
    rw [pushes, if_neg hnot, Nat.add_zero]
  | refused fault complete event => simp [hq _ _ _] at event
  | unmarked fault complete event waits mark => simp [hq _ _ _] at mark
  | unwaited complete event waits =>
    rw [pushes, if_pos complete, if_neg waits]
    exact q.writes_put _ _
  | marked complete event waits mark =>
    rw [pushes, if_pos complete, if_pos waits]
    show ((q.put d.name (utf8 e.json)).put (actionsList d.name) actionMark).writes = _
    rw [Queue.writes_put, Queue.writes_put]

/-! ### Events that all go the same way -/

/-- **The events** that are sent to one list come to lie there if they are complete, the newest
first. -/
theorem events_sendAll_same (d : Delivery) (sent : List Event) (hq : q.Open) :
    (sendAll (sent.map fun e => (d, e)) q).2.events d.name =
      (sent.filter fun e => e.IsComplete).reverse ++ q.events d.name := by
  rw [events_sendAll_of_open _ hq, List.filter_map, List.map_map]
  simp [Function.comp_def]

/-- **The payloads** that are put when events are sent to one list. -/
theorem writes_sendAll_same (d : Delivery) (sent : List Event) (hq : q.Open) :
    (sendAll (sent.map fun e => (d, e)) q).2.writes =
      q.writes + (sent.filter fun e => e.IsComplete).length * if 2 ≤ d.version then 2 else 1 := by
  induction sent generalizing q with
  | nil => simp [sendAll]
  | cons e sent ih =>
    have hopen := (send_of_open d e hq).2.1
    show (sendAll (sent.map fun e => (d, e)) (d.send e q).2).2.writes = _
    rw [ih hopen, writes_send_of_open d e hq, List.filter_cons]
    by_cases hcomplete : e.IsComplete
    · have hpushes : d.pushes e = if 2 ≤ d.version then 2 else 1 := if_pos hcomplete
      rw [hpushes, if_pos (decide_eq_true hcomplete), List.length_cons, Nat.succ_mul]
      omega
    · simp [pushes, hcomplete]

end Delivery

end AlertRelay
