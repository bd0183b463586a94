/-
AlertRelay/Proofs/Store/Service.lean

A store among its callers.

Whoever holds a handle may clone it, drop it, or make a call.  Any number of calls are under way at
the same time; a call borrows its handle, so the last handle cannot be dropped before all calls are
over.  A call presses its command on the intake until it is accepted, or gives up; then it returns,
a snapshot with what the owner has answered.  The owner takes commands at its own pace.  Once it has
been told to stop it takes none; it leaves when it has been told to, or when all handles are gone
and nothing waits.  A run of the service is any sequence of such moves; a move that cannot be made
changes nothing.

The log notes what callers can observe, and when a command is accepted.
-/
import AlertRelay.Proofs.Store.Ledger

namespace AlertRelay

namespace Service

/-! ### Calls and notes -/

/-- What a call is made for. -/
inductive Wish where
  | upsert (s : CachedState)
  | tombstone (key : String)
  | snapshot
deriving DecidableEq

/-- The command of a call, which is a snapshot's under a ticket. -/
def Wish.command (ticket : Nat) : Wish → Command
  | .upsert s => .upsert s
  | .tombstone key => .tombstone key
  | .snapshot => .snapshot ticket

/-- How far a call has come. -/
inductive Phase where
  /-- Its command has not been accepted. -/
  | submitting (w : Wish)
  /-- Its write has been accepted. -/
  | written
  /-- Its snapshot has been accepted, under a ticket. -/
  | awaiting (ticket : Nat)
  | ended
deriving DecidableEq

/-- The phase of a call whose command has been accepted. -/
def Phase.afterwards (ticket : Nat) : Wish → Phase
  | .snapshot => .awaiting ticket
  | _ => .written

/-- What happens to a call, which is named by its number. -/
inductive Note where
  | called (id : Nat) (w : Wish)
  | entered (id : Nat) (c : Command)
  | acknowledged (id : Nat)
  | shown (id : Nat) (states : States)
  | refused (id : Nat) (e : StoreError)
deriving DecidableEq

/-- The call that a note is about. -/
def Note.id : Note → Nat
  | .called id _ => id
  | .entered id _ => id
  | .acknowledged id => id
  | .shown id _ => id
  | .refused id _ => id

/-- The command that a note says was accepted. -/
def Note.command? : Note → Option Command
  | .entered _ c => some c
  | _ => none

/-- The commands of a log, in the order in which they were accepted. -/
def accepted (log : List Note) : List Command :=
  log.filterMap Note.command?

/-- What somebody does. -/
inductive Move where
  | clone
  | drop
  | call (w : Wish)
  /-- A call offers its command to the intake. -/
  | press (id : Nat)
  /-- The time of an update is over. -/
  | expire (id : Nat)
  /-- A call is given up by its caller. -/
  | abandon (id : Nat)
  /-- A call returns, if it can. -/
  | collect (id : Nat)
  | start
  | take
  /-- The owner is told to stop. -/
  | cancel
  /-- The owner stops. -/
  | leave
deriving DecidableEq

end Service

open Service

/-! ### The service -/

/-- A store with the calls that are made to it. -/
structure Service where
  store : Store
  /-- How many handles there are. -/
  handles : Nat := 1
  /-- The calls that have been made, under their numbers. -/
  calls : List Phase := []
  log : List Note := []
  /-- Whether the owner has been told to stop. -/
  told : Bool := false
  /-- What the owner returned. -/
  final : Option States := none

namespace Service

/-- A service that nobody has called, with one handle. -/
def ofIntake (i : Intake) : Service :=
  { store := .ofIntake i }

/-- Whether a call is under way. -/
def busy (v : Service) : Bool :=
  v.calls.any (· ≠ .ended)

/-- A call is over, with a note. -/
def conclude (v : Service) (id : Nat) (note : Note) : Service :=
  { v with calls := v.calls.set id .ended, log := v.log ++ [note] }

/-- The store when a call offers its command: a snapshot takes a ticket with it. -/
def prepared (s : Store) : Wish → Store
  | .snapshot => s.withTicket
  | _ => s

/-- A call offers its command to the intake. -/
def submit (v : Service) (id : Nat) (w : Wish) : Service :=
  match (prepared v.store w).offer (w.command v.store.tickets) with
  | .accepted store =>
    { v with
      store := store
      calls := v.calls.set id (.afterwards v.store.tickets w)
      log := v.log ++ [.entered id (w.command v.store.tickets)] }
  | .full => v
  | .closed => v.conclude id (.refused id .closed)

/-- A call looks for the answer under its ticket. -/
def look (v : Service) (id ticket : Nat) : Service :=
  match v.store.answerTo ticket with
  | .ended (.ok states) => v.conclude id (.shown id states)
  | .ended (.error e) => v.conclude id (.refused id e)
  | .waiting => v

/-- Whether the owner stops: it has been told to, or nobody can ever submit a command again and none
waits. -/
def leaves (v : Service) : Prop :=
  v.store.owner = .running ∧ (v.told = true ∨ (v.handles = 0 ∧ v.store.waiting = []))

instance (v : Service) : Decidable v.leaves :=
  inferInstanceAs (Decidable (_ ∧ _))

/-- The service after a move. -/
def act (v : Service) : Move → Service
  | .clone => if v.handles = 0 then v else { v with handles := v.handles + 1 }
  | .drop => if v.handles = 1 ∧ v.busy then v else { v with handles := v.handles - 1 }
  | .call w =>
    if v.handles = 0 then v
    else
      { v with
        calls := v.calls ++ [.submitting w]
        log := v.log ++ [.called v.calls.length w] }
  | .press id =>
    match v.calls[id]? with
    | some (.submitting w) => v.submit id w
    | _ => v
  | .expire id =>
    match v.calls[id]? with
    | some (.submitting (.upsert _)) =>
      v.conclude id (.refused id (.saturated v.store.submitTimeout))
    | _ => v
  | .abandon id => { v with calls := v.calls.set id .ended }
  | .collect id =>
    match v.calls[id]? with
    | some .written => v.conclude id (.acknowledged id)
    | some (.awaiting ticket) => v.look id ticket
    | _ => v
  | .start => { v with store := v.store.start }
  | .take => if v.told then v else { v with store := v.store.take }
  | .cancel => { v with told := true }
  | .leave =>
    if v.leaves then { v with store := v.store.cancel, final := some v.store.cached } else v

/-- The service after some moves. -/
def run (v : Service) (moves : List Move) : Service :=
  moves.foldl act v

end Service

end AlertRelay
