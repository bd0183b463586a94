/-
AlertRelay/Queue.lean

The lists that consumers read from.

A queue is a set of named lists of payloads.  New payloads go to the head, so a list shows the
newest first.  A list that nothing has been pushed to is empty.

A queue may refuse a push (`refuses`): for its place in the order of attempts, for the list or for
the payload.  A refused push leaves every list as it was.
-/
import AlertRelay.Event.Json

namespace AlertRelay

/-- Why a queue refuses a push. -/
inductive QueueFault where
  /-- The server that holds the lists cannot be reached, or answers with a fault. -/
  | connection (text : String)
  /-- The queue takes nothing at the moment. -/
  | unavailable (text : String)
deriving DecidableEq, Repr

/-- The complaint of a queue. -/
def QueueFault.message : QueueFault → String
  | .connection text => "Queue connection error: " ++ text
  | .unavailable text => "Queue unavailable: " ++ text

/-- Named lists of payloads. -/
structure Queue where
  /-- The lists that something has been pushed to. -/
  lists : KeyedMap (List Bytes) := ∅
  /-- How many pushes have been tried. -/
  attempts : Nat := 0
  /-- What becomes of an attempt: its number, its list and its payload decide. -/
  refuses : Nat → String → Bytes → Option QueueFault := fun _ _ _ => none

namespace Queue

/-- A list, newest payload first. -/
def list (q : Queue) (name : String) : List Bytes :=
  (q.lists.get? name).getD []

/-- The events of a list, newest first; payloads that are no events are passed over. -/
def events (q : Queue) (name : String) : List Event :=
  (q.list name).filterMap fun payload => (Event.parse payload).toOption

/-- How many payloads the lists hold. -/
def writes (q : Queue) : Nat :=
  q.lists.toList.foldl (fun n e => n + e.2.length) 0

/-- Puts a payload at the head of a list, without asking. -/
def put (q : Queue) (name : String) (payload : Bytes) : Queue :=
  { q with lists := q.lists.insert name (payload :: q.list name) }

/-- Tries to push a payload; the length of the list afterwards. -/
def push (q : Queue) (name : String) (payload : Bytes) : Except QueueFault Nat × Queue :=
  let tried := { q with attempts := q.attempts + 1 }
  match q.refuses q.attempts name payload with
  | some fault => (.error fault, tried)
  | none =>
    let q := tried.put name payload
    (.ok (q.list name).length, q)

/-! ### Lists and pushes -/

/-- **Putting** a payload changes its own list only. -/
theorem list_put (q : Queue) (name name' : String) (payload : Bytes) :
    (q.put name payload).list name' =
      if name' = name then payload :: q.list name else q.list name' := by
  simp only [list, put, KeyedMap.get?_insert]
  split <;> simp_all

end Queue

end AlertRelay
