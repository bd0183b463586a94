/-
AlertRelay/Proofs/Tick/OneShot.lean

One-shot states are sent once.

The queue gets what ticks try to send, and nothing else: it is what the attempts of the record make
of the queue that was there before (`queue_run_eq`).  Each attempt is about a state that some
command had cached, and no two are about the same one-shot command.  Neither the pace of the owner,
nor what the queue refuses, nor another state under the same key makes a difference.
-/
import AlertRelay.Proofs.Tick.Traffic

namespace AlertRelay

namespace Traffic

/-! ### What the queue gets -/

/-- The queue after an attempt. -/
def handOver (delivery : Delivery) (queue : Queue) (a : Attempt) : Queue :=
  (delivery.send (a.state.outgoing a.now) queue).2

/-- The queue is what the attempts have made of the first one. -/
structure HandsOver (queue : Queue) (delivery : Delivery) (v : Traffic) : Prop where
  delivery_eq : v.relay.delivery = delivery
  queue_eq : v.relay.queue = v.record.attempts.foldl (handOver delivery) queue

variable {queue : Queue} {delivery : Delivery} {v : Traffic}

/-- **A move** hands nothing over, unless the tick tries a state. -/
theorem HandsOver.act (hv : HandsOver queue delivery v) (move : Move) :
    HandsOver queue delivery (v.act move) := by
  have hmoved := v.moved move
  generalize v.act move = w at hmoved
  cases hmoved with
  | tries key s rest stage =>
    refine ⟨hv.delivery_eq, ?_⟩
    show (v.relay.delivery.send (s.outgoing v.tick.now) v.relay.queue).2 =
      (v.record.attempts ++ [(⟨v.record.asked, s, v.tick.now⟩ : Attempt)]).foldl
        (handOver delivery) queue
    rw [List.foldl_append, ← hv.queue_eq, hv.delivery_eq]
    rfl
  | _ => exact ⟨hv.delivery_eq, hv.queue_eq⟩

/-- **The queue** gets what ticks try to send, and nothing else. -/
theorem queue_run_eq (i : Intake) (queue : Queue) (delivery : Delivery) (moves : List Move) :
    HandsOver queue delivery ((ofIntake i queue delivery).run moves) := by
  refine List.foldlRecOn (motive := HandsOver queue delivery) moves Traffic.act ⟨rfl, rfl⟩ ?_
  intro v hv move _
  exact hv.act move

/-! ### One-shot states -/

/-- **A one-shot state is tried at most once.**  Every attempt is about a state that some command of
the store's history had cached, and two attempts about the same one-shot command are one. -/
theorem one_shot_tried_once (i : Intake) (queue : Queue) (delivery : Delivery)
    (moves : List Move) :
    Follows ((ofIntake i queue delivery).run moves).record.entered
        ((ofIntake i queue delivery).run moves).applied
        ((ofIntake i queue delivery).run moves).relay.store ∧
      HandsOver queue delivery ((ofIntake i queue delivery).run moves) ∧
      (∀ a ∈ ((ofIntake i queue delivery).run moves).record.attempts,
        ∃ j, ((ofIntake i queue delivery).run moves).record.Subject a j) ∧
      ∀ (j : Nat) (s : CachedState),
        ((ofIntake i queue delivery).run moves).record.entered[j]? = some (.upsert s) →
        s.isOneShot = true → ∀ (p q : Nat) (a b : Attempt),
          ((ofIntake i queue delivery).run moves).record.attempts[p]? = some a →
          ((ofIntake i queue delivery).run moves).record.attempts[q]? = some b →
          ((ofIntake i queue delivery).run moves).record.Subject a j →
          ((ofIntake i queue delivery).run moves).record.Subject b j → p = q := by
  have hsound := sound_run i queue delivery moves
  have hrecord := hsound.record
  refine ⟨hsound.follows, queue_run_eq i queue delivery moves, hrecord.subject, ?_⟩
  intro j s hj hone p q a b ha hb haj hbj
  have hstate : a.state = s := by
    have hu := (holds_take_iff.1 haj).2.1.symm.trans hj
    simpa using hu
  exact hrecord.attempt_unique ha hb haj hbj (hstate ▸ hone)

/-- A deployment that has begun; the state is sent once. -/
def started : CachedState :=
  ⟨.service "web1" "deploy" "ok" "started" 1700000000, -1⟩

/-- The same state is reported again between two ticks, and each tick tries what it finds. -/
def reportedTwice : List Move :=
  [.start, .upsert started, .begin 1700000060, .step, .take, .take, .step, .step, .step,
    .upsert started, .take, .take, .begin 1700000120, .step, .take, .step, .step]

theorem one_shot_tried_once_reportedTwice :
    ((ofIntake {} {} {}).run reportedTwice).record.attempts =
        [⟨1, started, 1700000060⟩, ⟨4, started, 1700000120⟩] ∧
      ∀ (q : Nat) (b : Attempt),
        ((ofIntake {} {} {}).run reportedTwice).record.attempts[q]? = some b →
        ((ofIntake {} {} {}).run reportedTwice).record.Subject b 0 → 0 = q := by
  refine ⟨rfl, fun q b hb hb0 => ?_⟩
  have ha0 : ((ofIntake {} {} {}).run reportedTwice).record.Subject ⟨1, started, 1700000060⟩ 0 := by
    refine holds_take_iff.2 ⟨Nat.zero_lt_one, rfl, fun j c hj hj1 => ?_⟩
    have hj1 : j < 1 := hj1
    omega
  exact (one_shot_tried_once {} {} {} reportedTwice).2.2.2 0 started rfl (by decide) 0 q
    ⟨1, started, 1700000060⟩ b rfl hb ha0 hb0

end Traffic

end AlertRelay
