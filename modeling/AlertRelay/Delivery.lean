/-
AlertRelay/Delivery.lean

Handing an event to its consumers.

An event without one of the required fields is refused before anything is pushed.  Consumers of
the second generation wait on a list of their own for a mark that there is something to do, so
they get the event first and the mark after it, in two pushes.
-/
import AlertRelay.Queue

namespace AlertRelay

/-- Where events go. -/
structure Delivery where
  /-- The list of events. -/
  name : String := "events"
  /-- The generation of the consumers. -/
  version : UInt8 := 2
deriving DecidableEq, Repr

/-- The list on which consumers wait for marks. -/
def actionsList (name : String) : String :=
  name ++ "_actions"

/-- The mark that there is an event to take. -/
def actionMark : Bytes :=
  utf8 "+"

/-- Why an event was not handed over. -/
inductive SendFault where
  | invalid (field : MissingField)
  | queue (fault : QueueFault)
deriving DecidableEq, Repr

/-- The complaint about an event that was not handed over. -/
def SendFault.message : SendFault → String
  | .invalid field => "Invalid event: " ++ field.message
  | .queue fault => fault.message

namespace Delivery

/-- Pushes the mark, for consumers that wait for one. -/
def mark (d : Delivery) (q : Queue) : Except QueueFault Unit × Queue :=
  if 2 ≤ d.version then
    match q.push (actionsList d.name) actionMark with
    | (.error fault, q) => (.error fault, q)
    | (.ok _, q) => (.ok (), q)
  else (.ok (), q)

/-- Hands an event over; the length of the list of events right after its push. -/
def send (d : Delivery) (e : Event) (q : Queue) : Except SendFault Nat × Queue :=
  match e.missing? with
  | some field => (.error (.invalid field), q)
  | none =>
    match q.push d.name (utf8 e.json) with
    | (.error fault, q) => (.error (.queue fault), q)
    | (.ok length, q) =>
      match d.mark q with
      | (.error fault, q) => (.error (.queue fault), q)
      | (.ok (), q) => (.ok length, q)

end Delivery

end AlertRelay
