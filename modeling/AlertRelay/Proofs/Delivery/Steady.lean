/-
AlertRelay/Proofs/Delivery/Steady.lean

Queues that treat like pushes alike.

A queue may look at the number of an attempt.  One that does not (`Queue.Steady`) refuses a push for
its list or for its payload, as a list of the wrong kind does, or a payload that it cannot hold.
Then the fate of an event is its own: it gets through exactly if it is complete and neither its push
nor that of its mark is refused (`Passes`), whatever has become of the events before it
(`isOk_sendAll`).
-/
import AlertRelay.Proofs.Delivery.Lists

namespace AlertRelay

/-- A queue that looks only at the list and at the payload of a push. -/
def Queue.Steady (q : Queue) : Prop :=
  ∀ n name payload, q.refuses n name payload = q.refuses 0 name payload

namespace Delivery

variable (d : Delivery) (e : Event) {q q' : Queue}

/-- An event that lacks nothing, and of which the queue takes what is due. -/
def Passes (q : Queue) : Prop :=
  e.IsComplete ∧ q.refuses 0 d.name (utf8 e.json) = none ∧
    (2 ≤ d.version → q.refuses 0 (actionsList d.name) actionMark = none)

instance : Decidable (d.Passes e q) :=
  inferInstanceAs (Decidable (_ ∧ _ ∧ (_ → _)))

/-- A send does not change the mind of a queue. -/
theorem refuses_send (q : Queue) : (d.send e q).2.refuses = q.refuses := by
  have hsent := d.sent e q
  generalize d.send e q = result at hsent ⊢
  cases hsent <;> rfl

theorem passes_congr (h : q'.refuses = q.refuses) : d.Passes e q' ↔ d.Passes e q := by
  rw [Passes, Passes, h]

/-- **A send** to a steady queue succeeds exactly if its event gets through. -/
theorem isOk_send (hq : q.Steady) : (d.send e q).1.isOk = decide (d.Passes e q) := by
  have hsent := d.sent e q
  generalize d.send e q = result at hsent ⊢
  -- the events and the marks that a steady queue refuses, it refuses at the first attempt
  cases hsent with
  | lacks f missing =>
    have hnot : ¬ d.Passes e q := by
      intro h
      rw [Event.missing?_eq_none_iff.2 h.1] at missing
      cases missing
    exact (decide_eq_false hnot).symm
  | refused fault complete event =>
    have hnot : ¬ d.Passes e q := by
      intro h
      rw [hq, h.2.1] at event
      cases event
    exact (decide_eq_false hnot).symm
  | unmarked fault complete event waits mark =>
    have hnot : ¬ d.Passes e q := by
      intro h
      rw [hq, h.2.2 waits] at mark
      cases mark
    exact (decide_eq_false hnot).symm
  | unwaited complete event waits =>
    have hpasses : d.Passes e q := ⟨complete, hq _ _ _ ▸ event, fun h => absurd h waits⟩
    exact (decide_eq_true hpasses).symm
  | marked complete event waits mark =>
    have hpasses : d.Passes e q := ⟨complete, hq _ _ _ ▸ event, fun _ => hq _ _ _ ▸ mark⟩
    exact (decide_eq_true hpasses).symm

/-- **Every event** has its own fate: those before it do not matter. -/
theorem isOk_sendAll (sends : List (Delivery × Event)) (hq : q.Steady) :
    (sendAll sends q).1.map (fun result => result.isOk) =
      sends.map fun s => decide (s.1.Passes s.2 q) := by
  induction sends generalizing q with
  | nil => rfl
  | cons s sends ih =>
    have hrefuses := s.1.refuses_send s.2 q
    have hsteady : (s.1.send s.2 q).2.Steady := by
      unfold Queue.Steady
      rw [hrefuses]
      exact hq
    show (s.1.send s.2 q).1.isOk :: (sendAll sends (s.1.send s.2 q).2).1.map _ = _
    rw [isOk_send s.1 s.2 hq, ih hsteady, List.map_cons]
    -- whether a later event gets through can be asked of the queue as it was
    apply congrArg
    apply List.map_congr_left
    intro t _
    exact decide_eq_decide.2 (t.1.passes_congr t.2 hrefuses)

end Delivery

end AlertRelay
