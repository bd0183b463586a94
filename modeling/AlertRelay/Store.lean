/-
AlertRelay/Store.lean

The cached states, their owner and its intake.

One owner holds the cached states and applies commands to them, one at a time.  Everybody else
submits commands to a bounded intake, which keeps them in the order in which they were accepted.
So there are three kinds of steps, and a run is any sequence of them:

* somebody submits a command (`offer`): it is accepted, or the intake is full, or nobody will ever
  take it because the owner has stopped;
* the owner takes the first command of the intake and applies it (`take`);
* the owner starts, or is told to stop (`start`, `cancel`).  An owner that is told to stop does
  nothing more: what waits in the intake is not applied.

A submission to a full intake waits.  What happens meanwhile is a list of such steps, `moments`:
the submission is tried before the first of them and after each (`submit`).  An update gives up
when its time is over, the other commands wait for as long as it takes.

A snapshot is answered by the owner, so the one who asks gets a ticket and looks for the answer
under it.
-/
import AlertRelay.Duration
import AlertRelay.Event.Json

namespace AlertRelay

/-- Cached states under their keys. -/
abbrev States := KeyedMap CachedState

/-! ### Commands -/

/-- What the owner can be asked to do. -/
inductive Command where
  /-- To cache a state under its key. -/
  | upsert (s : CachedState)
  /-- To drop what is cached under a key. -/
  | tombstone (key : String)
  /-- To show all cached states to the holder of a ticket. -/
  | snapshot (ticket : Nat)
deriving DecidableEq

/-- The cached states after a command. -/
def Command.apply (states : States) : Command → States
  | .upsert s => states.insert s.key s
  | .tombstone key => states.erase key
  | .snapshot _ => states

/-- The text of cached states, by ascending key. -/
def States.json (states : States) : String :=
  (Json.object (states.toList.map fun e => (e.1, e.2.toJson))).write

/-- Why a command was not accepted. -/
inductive StoreError where
  /-- The intake was full for the whole time that was given. -/
  | saturated (waited : Duration)
  /-- The owner has stopped. -/
  | closed
deriving DecidableEq, Repr

/-- The complaint about a command. -/
def StoreError.message : StoreError → String
  | .saturated waited => "State store intake is saturated (waited " ++ waited.text ++ ")"
  | .closed => "State store is not running"

/-- How a call stands: it has ended, or it waits for as long as nobody does anything. -/
inductive Call (α : Type) where
  | ended (result : Except StoreError α)
  | waiting

/-! ### The store -/

/-- How many commands the intake holds, and how long an update waits for room. -/
structure Intake where
  buffer : UInt64 := 1024
  submitTimeoutMs : UInt64 := 500
deriving DecidableEq, Repr

/-- The time that an update is given. -/
def Intake.submitTimeout (i : Intake) : Duration :=
  .ofMillis i.submitTimeoutMs.toNat

/-- Whether the owner is at work. -/
inductive Owner where
  /-- Not yet. -/
  | absent
  | running
  /-- Never again. -/
  | stopped
deriving DecidableEq, Repr

/-- The cached states with everything around them. -/
structure Store where
  /-- How many commands can wait. -/
  capacity : Nat
  submitTimeout : Duration
  owner : Owner := .absent
  /-- Accepted commands that have not been applied, the first one first. -/
  waiting : List Command := []
  cached : States := ∅
  /-- Answered snapshots under their tickets. -/
  answers : List (Nat × States) := []
  /-- How many tickets have been given out. -/
  tickets : Nat := 0

namespace Store

/-- A store without states and owner.  Its intake has room for at least one command. -/
def ofIntake (i : Intake) : Store :=
  { capacity := max i.buffer.toNat 1, submitTimeout := i.submitTimeout }

/-- Whether the owner has stopped. -/
def isClosed (s : Store) : Bool :=
  s.owner = .stopped

/-! ### Steps -/

/-- What becomes of a command that is offered. -/
inductive Offer where
  | accepted (s : Store)
  | full
  | closed

/-- Offers a command to the intake. -/
def offer (s : Store) (c : Command) : Offer :=
  if s.owner = .stopped then .closed
  else if s.waiting.length < s.capacity then .accepted { s with waiting := s.waiting ++ [c] }
  else .full

/-- The answers after a command. -/
def answersAfter (s : Store) : Command → List (Nat × States)
  | .snapshot ticket => (ticket, s.cached) :: s.answers
  | _ => s.answers

/-- The owner takes a command and applies it. -/
def take (s : Store) : Store :=
  match s.owner, s.waiting with
  | .running, c :: rest =>
    { s with waiting := rest, cached := c.apply s.cached, answers := s.answersAfter c }
  | _, _ => s

/-- The owner starts, unless it has been started before. -/
def start (s : Store) : Store :=
  if s.owner = .absent then { s with owner := .running } else s

/-- The owner is told to stop. -/
def cancel (s : Store) : Store :=
  { s with owner := .stopped, waiting := [] }

/-- A step of anybody. -/
inductive Action where
  | submit (c : Command)
  | take
  | start
  | cancel
deriving DecidableEq

/-- The store after a step. -/
def act (s : Store) : Action → Store
  | .submit c =>
    match s.offer c with
    | .accepted s => s
    | .full => s
    | .closed => s
  | .take => s.take
  | .start => s.start
  | .cancel => s.cancel

/-- The store after some steps. -/
def run (s : Store) (actions : List Action) : Store :=
  actions.foldl act s

/-- The owner takes so many commands. -/
def takeMany : Nat → Store → Store
  | 0, s => s
  | n + 1, s => takeMany n s.take

/-- The owner does what waits. -/
def settle (s : Store) : Store :=
  takeMany s.waiting.length s

/-! ### What a step does -/

/-- **An offer** is accepted if the owner has not stopped and there is room; then it waits last. -/
theorem offer_eq_accepted_iff {s s' : Store} {c : Command} :
    s.offer c = .accepted s' ↔
      s.owner ≠ .stopped ∧ s.waiting.length < s.capacity ∧
        s' = { s with waiting := s.waiting ++ [c] } := by
  unfold offer
  by_cases ho : s.owner = .stopped
  · simp [ho]
  · by_cases hw : s.waiting.length < s.capacity
    · simp [ho, hw, eq_comm]
    · simp [ho, hw]

theorem offer_eq_closed_iff {s : Store} {c : Command} :
    s.offer c = .closed ↔ s.owner = .stopped := by
  unfold offer
  by_cases ho : s.owner = .stopped
  · simp [ho]
  · by_cases hw : s.waiting.length < s.capacity
    · simp [ho, hw]
    · simp [ho, hw]

/-- **Taking** does nothing, or applies the first command that waits. -/
theorem take_cases (s : Store) :
    (s.take = s ∧ (s.owner ≠ .running ∨ s.waiting = [])) ∨
    ∃ c rest, s.owner = .running ∧ s.waiting = c :: rest ∧
      s.take =
        { s with waiting := rest, cached := c.apply s.cached, answers := s.answersAfter c } := by
  unfold take
  split
  · rename_i c rest ho hw
    exact .inr ⟨c, rest, ho, hw, rfl⟩
  · rename_i h
    refine .inl ⟨rfl, ?_⟩
    cases ho : s.owner with
    | running =>
      cases hw : s.waiting with
      | nil => exact .inr rfl
      | cons c rest => exact absurd hw (h c rest ho)
    | absent => exact .inl (by simp)
    | stopped => exact .inl (by simp)

@[simp] theorem start_waiting (s : Store) : s.start.waiting = s.waiting := by
  unfold start
  split <;> rfl

@[simp] theorem start_cached (s : Store) : s.start.cached = s.cached := by
  unfold start
  split <;> rfl

@[simp] theorem start_answers (s : Store) : s.start.answers = s.answers := by
  unfold start
  split <;> rfl

@[simp] theorem start_tickets (s : Store) : s.start.tickets = s.tickets := by
  unfold start
  split <;> rfl

@[simp] theorem start_owner_eq_stopped_iff (s : Store) :
    s.start.owner = .stopped ↔ s.owner = .stopped := by
  unfold start
  split <;> simp_all

/-- An owner that is not at work after a start has stopped. -/
theorem owner_eq_stopped_of_start {s : Store} (h : s.start.owner ≠ .running) :
    s.owner = .stopped := by
  cases ho : s.owner with
  | absent => exact absurd (by simp [start, ho]) h
  | running => exact absurd (by simp [start, ho]) h
  | stopped => rfl

@[simp] theorem take_owner (s : Store) : s.take.owner = s.owner := by
  unfold take
  split <;> rfl

@[simp] theorem takeMany_owner (n : Nat) (s : Store) : (takeMany n s).owner = s.owner := by
  induction n generalizing s with
  | zero => rfl
  | succ n ih => exact (ih s.take).trans (take_owner s)

/-- **A running owner** can do everything that waits. -/
theorem settle_waiting {s : Store} (ho : s.owner = .running) : s.settle.waiting = [] := by
  unfold settle
  induction hw : s.waiting generalizing s with
  | nil => exact hw
  | cons c rest ih =>
    have htake : s.take.waiting = rest := by
      simp [take, ho, hw]
    show (takeMany rest.length s.take).waiting = []
    exact ih (by rw [take_owner, ho]) htake

/-! ### Calls -/

/-- How the submission of a command ends. -/
inductive Submission where
  | accepted
  | timedOut
  | closed
deriving DecidableEq, Repr

/-- Submits a command while other things happen; those that happen after it are left out. -/
def submit (c : Command) : (moments : List Action) → Store → Submission × Store
  | [], s =>
    match s.offer c with
    | .accepted s => (.accepted, s)
    | .full => (.timedOut, s)
    | .closed => (.closed, s)
  | a :: rest, s =>
    match s.offer c with
    | .accepted s => (.accepted, s)
    | .full => submit c rest (s.act a)
    | .closed => (.closed, s)

/-- Asks to cache a state. -/
def upsert (s : Store) (state : CachedState) (moments : List Action) :
    Except StoreError Unit × Store :=
  match submit (.upsert state) moments s with
  | (.accepted, s) => (.ok (), s)
  | (.timedOut, s) => (.error (.saturated s.submitTimeout), s)
  | (.closed, s) => (.error .closed, s)

/-- Asks to drop what is cached under a key. -/
def tombstone (s : Store) (key : String) (moments : List Action) : Call Unit × Store :=
  match submit (.tombstone key) moments s with
  | (.accepted, s) => (.ended (.ok ()), s)
  | (.timedOut, s) => (.waiting, s)
  | (.closed, s) => (.ended (.error .closed), s)

/-- The answer under a ticket.  A ticket whose command was never taken has none. -/
def answerTo (s : Store) (ticket : Nat) : Call States :=
  match s.answers.lookup ticket with
  | some states => .ended (.ok states)
  | none => if s.isClosed then .ended (.error .closed) else .waiting

/-- Nobody answers once the owner has stopped. -/
theorem owner_of_answerTo_error {s : Store} {ticket : Nat} {e : StoreError}
    (h : s.answerTo ticket = .ended (.error e)) : s.owner = .stopped := by
  unfold answerTo at h
  split at h
  · cases h
  · split at h
    · rename_i hc
      simpa [isClosed] using hc
    · cases h

/-- The store after it has given out a ticket. -/
def withTicket (s : Store) : Store :=
  { s with tickets := s.tickets + 1 }

/-- Asks for the cached states and, once that is accepted, lets the owner do what waits. -/
def snapshot (s : Store) (moments : List Action) : Call States × Store :=
  match submit (.snapshot s.tickets) moments s.withTicket with
  | (.accepted, s') => (s'.settle.answerTo s.tickets, s'.settle)
  | (.timedOut, s') => (.waiting, s')
  | (.closed, s') => (.ended (.error .closed), s')

/-! ### The end -/

/-- Ends a running owner at once; its states. -/
def stop? (s : Store) : Option (States × Store) :=
  if s.owner = .running then some (s.cached, s.cancel) else none

/-- Ends a running owner that has done everything that waited; its states. -/
def shutdown? (s : Store) : Option (States × Store) :=
  s.settle.stop?

end Store

end AlertRelay
