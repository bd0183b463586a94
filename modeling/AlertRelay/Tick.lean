/-
AlertRelay/Tick.lean

Sending everything that is cached.

A tick asks for the cached states, then goes over them by ascending key and sends for each the
event that stands for it now.  A one-shot state is dropped after it has been tried, whether it was
taken or not; a refused event is counted and does not stop the tick.  A store that has stopped
does.

A tick is not one step.  Between any two of its own steps others may submit commands and the owner
may take some, so a tick under way is a value (`Tick`) and `Tick.step` makes its next step in
whatever the store and the queue have become.  A step that cannot be made leaves everything as it
is.  `Relay.tick` is the run in which nobody else acts and the owner keeps up.
-/
import AlertRelay.Delivery
import AlertRelay.Store

namespace AlertRelay

/-- The cached states and the lists their events go to. -/
structure Relay where
  store : Store
  queue : Queue
  delivery : Delivery

/-- What a tick has done. -/
structure TickReport where
  /-- The states it found. -/
  cached : Nat := 0
  /-- The events that were taken. -/
  sent : Nat := 0
  /-- The states that were no longer believed. -/
  stale : Nat := 0
  /-- The events that were refused. -/
  failed : Nat := 0
  /-- The states it dropped. -/
  tombstoned : Nat := 0
deriving DecidableEq, Repr

/-- What a tick does next. -/
inductive Stage where
  /-- It asks for the cached states. -/
  | asking
  /-- It looks for the answer under its ticket. -/
  | awaiting (ticket : Nat)
  /-- It sends the first of the states that are left; it is over when none is. -/
  | sending (rest : List (String × CachedState))
  /-- It drops a state and goes on with those that are left. -/
  | dropping (key : String) (rest : List (String × CachedState))
  /-- It has given up. -/
  | failed (e : StoreError)
deriving DecidableEq

/-- A tick under way. -/
structure Tick where
  now : Int64
  stage : Stage := .asking
  report : TickReport := {}

namespace Tick

/-! ### Steps -/

/-- The stage after a state has been tried. -/
def stageAfter (key : String) (s : CachedState) (rest : List (String × CachedState)) : Stage :=
  if s.isOneShot then .dropping key rest else .sending rest

/-- Counts a state that has been tried. -/
def counted (report : TickReport) (stale taken : Bool) : TickReport :=
  { report with
    stale := if stale then report.stale + 1 else report.stale
    sent := if taken then report.sent + 1 else report.sent
    failed := if taken then report.failed else report.failed + 1 }

/-- Tries to send a state. -/
def attempt (t : Tick) (s : CachedState) (r : Relay) : TickReport × Relay :=
  let (result, queue) := r.delivery.send (s.outgoing t.now) r.queue
  (counted t.report (s.staleFor t.now).isSome result.isOk, { r with queue := queue })

/-- Makes the next step. -/
def step (t : Tick) (r : Relay) : Tick × Relay :=
  match t.stage with
  | .asking =>
    match r.store.withTicket.offer (.snapshot r.store.tickets) with
    | .accepted store => ({ t with stage := .awaiting r.store.tickets }, { r with store := store })
    | .full => (t, r)
    | .closed => ({ t with stage := .failed .closed }, r)
  | .awaiting ticket =>
    match r.store.answerTo ticket with
    | .ended (.ok states) =>
      ({ t with stage := .sending states.toList, report := { cached := states.size } }, r)
    | .ended (.error e) => ({ t with stage := .failed e }, r)
    | .waiting => (t, r)
  | .sending [] => (t, r)
  | .sending ((key, s) :: rest) =>
    let (report, r) := t.attempt s r
    ({ t with stage := stageAfter key s rest, report := report }, r)
  | .dropping key rest =>
    match r.store.offer (.tombstone key) with
    | .accepted store =>
      ({ t with
          stage := .sending rest
          report := { t.report with tombstoned := t.report.tombstoned + 1 } },
        { r with store := store })
    | .full => (t, r)
    | .closed => ({ t with stage := .failed .closed }, r)
  | .failed _ => (t, r)

/-- What a step makes of a tick and of the relay. -/
inductive Stepped (t : Tick) (r : Relay) : Tick × Relay → Prop where
  /-- Its question is accepted. -/
  | asks (store : Store) (stage : t.stage = .asking)
      (offer : r.store.withTicket.offer (.snapshot r.store.tickets) = .accepted store) :
      Stepped t r ({ t with stage := .awaiting r.store.tickets }, { r with store := store })
  | finds (ticket : Nat) (states : States) (stage : t.stage = .awaiting ticket)
      (answer : r.store.answerTo ticket = .ended (.ok states)) :
      Stepped t r
        ({ t with stage := .sending states.toList, report := { cached := states.size } }, r)
  | tries (key : String) (s : CachedState) (rest : List (String × CachedState))
      (stage : t.stage = .sending ((key, s) :: rest)) :
      Stepped t r
        ({ t with stage := stageAfter key s rest, report := (t.attempt s r).1 }, (t.attempt s r).2)
  /-- Its wish to drop a state is accepted. -/
  | drops (key : String) (rest : List (String × CachedState)) (store : Store)
      (stage : t.stage = .dropping key rest)
      (offer : r.store.offer (.tombstone key) = .accepted store) :
      Stepped t r
        ({ t with
            stage := .sending rest
            report := { t.report with tombstoned := t.report.tombstoned + 1 } },
          { r with store := store })
  | fails (e : StoreError) (stage : ∀ rest, t.stage ≠ .sending rest)
      (stopped : r.store.owner = .stopped) : Stepped t r ({ t with stage := .failed e }, r)
  | rests (stage : ∀ x rest, t.stage ≠ .sending (x :: rest)) : Stepped t r (t, r)

/-- **A step** asks, finds its answer, tries a state, drops one, fails or does nothing. -/
theorem stepped (t : Tick) (r : Relay) : Stepped t r (t.step r) := by
  unfold step
  split
  · rename_i hs
    cases ho : r.store.withTicket.offer (.snapshot r.store.tickets) with
    | accepted store => exact .asks store hs ho
    | full => exact .rests (by simp [hs])
    | closed =>
      have hstopped : r.store.withTicket.owner = .stopped := Store.offer_eq_closed_iff.1 ho
      exact .fails _ (by simp [hs]) hstopped
  · rename_i ticket hs
    cases ha : r.store.answerTo ticket with
    | ended result =>
      cases result with
      | ok states => exact .finds ticket states hs ha
      | error e => exact .fails e (by simp [hs]) (Store.owner_of_answerTo_error ha)
    | waiting => exact .rests (by simp [hs])
  · rename_i hs
    exact .rests (by simp [hs])
  · rename_i key s rest hs
    exact .tries key s rest hs
  · rename_i key rest hs
    cases ho : r.store.offer (.tombstone key) with
    | accepted store => exact .drops key rest store hs ho
    | full => exact .rests (by simp [hs])
    | closed => exact .fails _ (by simp [hs]) (Store.offer_eq_closed_iff.1 ho)
  · rename_i e hs
    exact .rests (by simp [hs])

/-- How a tick stands. -/
def result (t : Tick) : Call TickReport :=
  match t.stage with
  | .sending [] => .ended (.ok t.report)
  | .failed e => .ended (.error e)
  | _ => .waiting

theorem result_of_sending_nil {t : Tick} (h : t.stage = .sending []) :
    t.result = .ended (.ok t.report) := by
  simp [result, h]

/-! ### A tick that nobody disturbs -/

/-- How many steps a tick still makes once it has its states. -/
def remaining (t : Tick) : Nat :=
  match t.stage with
  | .sending rest => 2 * rest.length
  | .dropping _ rest => 2 * rest.length + 1
  | _ => 0

/-- Makes a step and lets the owner do what waits. -/
def settledStep (t : Tick) (r : Relay) : Tick × Relay :=
  let (t, r) := t.step r
  (t, { r with store := r.store.settle })

/-- Makes so many steps. -/
def steps : Nat → Tick → Relay → Tick × Relay
  | 0, t, r => (t, r)
  | n + 1, t, r =>
    let (t, r) := t.settledStep r
    steps n t r

/-- Makes at most so many steps, until the tick ends.  The owner does what waits only when the tick
has to wait for it. -/
def unhurriedSteps : Nat → Tick → Relay → Tick × Relay
  | 0, t, r => (t, r)
  | n + 1, t, r =>
    match t.result with
    | .ended _ => (t, r)
    | .waiting =>
      let (t', r) := t.step r
      unhurriedSteps n t'
        (if t'.stage = t.stage then { r with store := r.store.settle } else r)

end Tick

namespace Relay

/-- One tick while nobody else acts and the owner is in no hurry.  Until it has its states the tick
makes four steps, and then at most three for each of them. -/
def unhurriedTick (r : Relay) (now : Int64) : Call TickReport × Relay :=
  let (t, r) := Tick.unhurriedSteps 4 { now := now } r
  let (t, r) := Tick.unhurriedSteps (2 * t.remaining) t r
  (t.result, r)

/-- One tick while nobody else acts. -/
def tick (r : Relay) (now : Int64) : Call TickReport × Relay :=
  let (t, r) := Tick.steps 2 { now := now } r
  let (t, r) := Tick.steps t.remaining t r
  (t.result, r)

/-- So many ticks in a row; a tick that waits is the last one. -/
def ticks (r : Relay) (now : Int64) : Nat → Relay
  | 0 => r
  | n + 1 =>
    match r.tick now with
    | (.ended _, r) => ticks r now n
    | (.waiting, r) => r

/-- How many ticks fall into a time: one at its beginning and one after each interval. -/
def ticksWithin (interval time : Duration) : Nat :=
  time.nanos / interval.nanos + 1

end Relay

end AlertRelay
