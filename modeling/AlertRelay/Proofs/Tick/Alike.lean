/-
AlertRelay/Proofs/Tick/Alike.lean

Two relays that show the same.

A store has a past: how many questions it has answered, how much its intake holds, what it has gone
through until its states were what they are.  A tick must not depend on that.  Here two ticks run
side by side, on relays that have the same states cached, the same queue and the same names to send
to, and nothing else in common (`Relay.Alike`).  A step keeps them alike and makes the same of both
ticks (`Alike.step`), so they end with the same report, the same lists and the same states
(`tick_alike`).

What a tick finds is what is due when its question is accepted.  So the two stores need not even
have got equally far with their commands.
-/
import AlertRelay.Proofs.Store.Due
import AlertRelay.Tick

namespace AlertRelay

/-! ### Stores with nothing to do -/

namespace Store

variable {s s' : Store}

/-- The owner is at work and has done everything that waited. -/
structure Settled (s : Store) : Prop where
  ready : s.Ready
  done : s.waiting = []

theorem Ready.settled_settle (h : s.Ready) : s.settle.Settled :=
  ⟨h.takeMany _, settle_waiting h.running⟩

theorem Settled.settle_eq (h : s.Settled) : s.settle = s := by
  rw [settle, h.done]
  rfl

/-- **A tombstone** that nothing waits before is carried out at once. -/
theorem Settled.offer_tombstone (h : s.Settled) (key : String) :
    ∃ s', s.offer (.tombstone key) = .accepted s' ∧ s'.settle.Settled ∧
      s'.settle.cached = s.cached.erase key := by
  have hroom : s.waiting.length < s.capacity := by
    rw [h.done]
    exact h.ready.bounded.roomy
  have hoffer : s.offer (.tombstone key) =
      .accepted { s with waiting := s.waiting ++ [.tombstone key] } :=
    offer_eq_accepted_iff.2 ⟨by simp [h.ready.running], hroom, rfl⟩
  have hready := h.ready.offer hoffer
  refine ⟨_, hoffer, hready.settled_settle, ?_⟩
  rw [settle_cached hready.running, due_of_accepted hoffer, due_of_waiting_eq_nil h.done]
  rfl

/-- **A question** that there is room for is answered with what is due. -/
theorem Ready.offer_snapshot (h : s.Ready) (hroom : s.waiting.length < s.capacity) :
    ∃ s', s.withTicket.offer (.snapshot s.tickets) = .accepted s' ∧ s'.settle.Settled ∧
      s'.settle.cached = s.due ∧ s'.settle.answerTo s.tickets = .ended (.ok s.due) := by
  have hticket : s.withTicket.Ready := ⟨h.running, h.bounded.roomy, h.bounded.fits⟩
  have hoffer : s.withTicket.offer (.snapshot s.tickets) =
      .accepted { s.withTicket with waiting := s.waiting ++ [.snapshot s.tickets] } :=
    offer_eq_accepted_iff.2 ⟨by simp [hticket.running], hroom, rfl⟩
  have hready := hticket.offer hoffer
  have hdue := due_of_accepted hoffer
  refine ⟨_, hoffer, hready.settled_settle, ?_, ?_⟩
  · rw [settle_cached hready.running, hdue]
    rfl
  · rw [answerTo_settle hready.running rfl, hdue]
    rfl

end Store

/-! ### Side by side -/

/-- Two relays with the same states, the same queue and the same names. -/
structure Relay.Alike (r r' : Relay) : Prop where
  settled : r.store.Settled
  settled' : r'.store.Settled
  cached : r'.store.cached = r.store.cached
  queue : r'.queue = r.queue
  delivery : r'.delivery = r.delivery

namespace Tick

variable {t : Tick} {r r' : Relay}

/-- A tick that has found its states and has not given up. -/
def HasStates (t : Tick) : Prop :=
  match t.stage with
  | .sending _ => True
  | .dropping _ _ => True
  | _ => False

/-- What a step makes of one tick on two relays: one tick that is nearer to its end, or has ended,
and two relays that are alike. -/
structure StepsAlike (t : Tick) (after after' : Tick × Relay) : Prop where
  tick : after'.1 = after.1
  alike : after.2.Alike after'.2
  has : after.1.HasStates
  nearer : after.1.remaining ≤ t.remaining - 1

/-- **A step** makes the same of both ticks. -/
theorem Alike.step (h : r.Alike r') (hs : t.HasStates) :
    t.StepsAlike (t.settledStep r) (t.settledStep r') := by
  obtain ⟨hsettled, hsettled', hcached, hqueue, hdelivery⟩ := h
  obtain ⟨now, stage, report⟩ := t
  cases stage with
  | asking => exact absurd hs id
  | awaiting ticket => exact absurd hs id
  | failed e => exact absurd hs id
  | sending rest =>
    cases rest with
    | nil =>
      -- a tick that has ended does nothing, and neither does its owner
      simp only [settledStep, step, hsettled.settle_eq, hsettled'.settle_eq]
      exact ⟨rfl, ⟨hsettled, hsettled', hcached, hqueue, hdelivery⟩, trivial, Nat.le_refl _⟩
    | cons e rest =>
      obtain ⟨key, s⟩ := e
      simp only [settledStep, step, attempt, hqueue, hdelivery, hsettled.settle_eq,
        hsettled'.settle_eq]
      refine ⟨rfl, ⟨hsettled, hsettled', hcached, rfl, rfl⟩, ?_, ?_⟩
      · by_cases hone : s.isOneShot = true <;> simp [HasStates, stageAfter, hone]
      · by_cases hone : s.isOneShot = true <;> simp [remaining, stageAfter, hone] <;> omega
  | dropping key rest =>
    obtain ⟨s₁, hoffer, hdone, herased⟩ := hsettled.offer_tombstone key
    obtain ⟨s₁', hoffer', hdone', herased'⟩ := hsettled'.offer_tombstone key
    simp only [settledStep, step, hoffer, hoffer']
    refine ⟨rfl, ⟨hdone, hdone', ?_, hqueue, hdelivery⟩, trivial, Nat.le_refl _⟩
    show s₁'.settle.cached = s₁.settle.cached
    rw [herased, herased', hcached]

/-- **Steps** in which both ticks get to their end. -/
theorem Alike.steps (h : r.Alike r') (hs : t.HasStates) {n : Nat} (hn : t.remaining ≤ n) :
    (steps n t r').1 = (steps n t r).1 ∧ (steps n t r).2.Alike (steps n t r').2 ∧
      (steps n t r).1.stage = .sending [] := by
  induction n generalizing t r r' with
  | zero =>
    -- nothing remains only where nothing is left to send
    refine ⟨rfl, h, ?_⟩
    show t.stage = .sending []
    cases hstage : t.stage with
    | sending rest =>
      cases rest with
      | nil => rfl
      | cons e rest => simp [remaining, hstage] at hn
    | dropping key rest => simp [remaining, hstage] at hn
    | _ => simp [HasStates, hstage] at hs
  | succ n ih =>
    obtain ⟨htick, halike, hhas, hnearer⟩ := Alike.step h hs
    have hlater := ih halike hhas (Nat.le_trans hnearer (Nat.sub_le_of_le_add hn))
    have hsteps : ∀ r, steps (n + 1) t r = steps n (t.settledStep r).1 (t.settledStep r).2 :=
      fun _ => rfl
    rw [hsteps, hsteps, htick]
    exact hlater

/-- **A tick finds** what is due, if there is room for its question. -/
theorem steps_two (hready : r.store.Ready) (hroom : r.store.waiting.length < r.store.capacity)
    (now : Int64) :
    ∃ s, s.Settled ∧ s.cached = r.store.due ∧
      steps 2 { now := now } r =
        ({ now := now
           stage := .sending r.store.due.toList
           report := { cached := r.store.due.size } },
          { r with store := s }) := by
  obtain ⟨s, hoffer, hsettled, hcached, hanswer⟩ := hready.offer_snapshot hroom
  refine ⟨s.settle, hsettled, hcached, ?_⟩
  simp [steps, settledStep, step, hoffer, hanswer, hsettled.settle_eq]

end Tick

/-! ### Whole ticks -/

namespace Relay

variable {r r' : Relay}

/-- **Two ticks** on relays that show the same come to the same end: one report, the same lists and
the same states. -/
theorem tick_alike (hready : r.store.Ready) (hready' : r'.store.Ready)
    (hroom : r.store.waiting.length < r.store.capacity)
    (hroom' : r'.store.waiting.length < r'.store.capacity)
    (hdue : r'.store.due = r.store.due) (hqueue : r'.queue = r.queue)
    (hdelivery : r'.delivery = r.delivery) (now : Int64) :
    ∃ report, (r.tick now).1 = .ended (.ok report) ∧ (r'.tick now).1 = .ended (.ok report) ∧
      (r.tick now).2.Alike (r'.tick now).2 := by
  obtain ⟨s, hsettled, hcached, hsteps⟩ := Tick.steps_two hready hroom now
  obtain ⟨s', hsettled', hcached', hsteps'⟩ := Tick.steps_two hready' hroom' now
  rw [hdue] at hcached' hsteps'
  have halike : Alike { r with store := s } { r' with store := s' } :=
    ⟨hsettled, hsettled', hcached'.trans hcached.symm, hqueue, hdelivery⟩
  unfold tick
  simp only [hsteps, hsteps']
  generalize hfound : ({
    now := now
    stage := .sending r.store.due.toList
    report := { cached := r.store.due.size } } : Tick) = t
  have hhas : t.HasStates := by
    rw [← hfound]
    trivial
  obtain ⟨htick, hend, hstage⟩ := Tick.Alike.steps halike hhas (Nat.le_refl _)
  have hresult := Tick.result_of_sending_nil hstage
  rw [htick]
  exact ⟨_, hresult, hresult, hend⟩

end Relay

end AlertRelay
