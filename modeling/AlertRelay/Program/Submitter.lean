/-
AlertRelay/Program/Submitter.lean

The submitter: hands one event over, once or again and again.
-/
import AlertRelay.CommandLine.Submitter
import AlertRelay.ListServer
import AlertRelay.Program.Ending

namespace AlertRelay

namespace SubmitterFlags

/-- Hands the event over at each of some times, up to the first time at which that fails. -/
def submit (f : SubmitterFlags) : (times : List Int64) → Queue → Ending × Queue
  | [], q => ({}, q)
  | time :: rest, q =>
    match f.queue.send (f.event time) q with
    | (.error fault, q) => (.failed (inParentheses "Send" fault.parts), q)
    | (.ok _, q) => submit f rest q

/-- The times at which the event is handed over: now and, if there is an interval, at those that
come before somebody interrupts. -/
def times (f : SubmitterFlags) (now : Int64) (later : List Int64) : List Int64 :=
  now :: if f.interval.isSome then later else []

/-- Does what the command line says; the queue, if it was reached. -/
def run (f : SubmitterFlags) (n : Network) (now : Int64) (later : List Int64) :
    Ending × Option Queue :=
  match readAddress f.redis.address with
  | .error fault => (.failed (inParentheses "Config" fault.parts), none)
  | .ok _ =>
    match f.redis.connect n with
    | .error fault => (.failed (inParentheses "Connect" fault.parts), none)
    | .ok q =>
      let (ending, q) := f.submit (f.times now later) q
      (ending, some q)

end SubmitterFlags

/-- The submitter. -/
def submitter (words : List String) (n : Network) (now : Int64) (later : List Int64) :
    Ending × Option Queue :=
  match SubmitterFlags.parse words with
  | .error f => (.ofUsage f, none)
  | .ok f => f.run n now later

end AlertRelay
