/-
AlertRelay/CommandLine/Submitter.lean

The command line of the submitter: the four fields of an event, and where it goes.
-/
import AlertRelay.CommandLine.Value

namespace AlertRelay

/-- What the command line of the submitter says. -/
structure SubmitterFlags where
  entity : String := ""
  check : String := ""
  state : String := ""
  summary : String := ""
  redis : RedisSettings := {}
  queue : Delivery := {}
  /-- The time after which the event is submitted again. -/
  interval : Option Duration := none
  debug : Bool := false
deriving DecidableEq, Repr

namespace SubmitterFlags

/-- The command line of the submitter. -/
def commandLine : CommandLine SubmitterFlags where
  flags := [
    { long := "server", short := some 's',
      effect := Flag.text fun s f => { f with redis := { f.redis with address := s } } },
    { long := "database", short := some 'd',
      effect := Flag.int64 fun n f => { f with redis := { f.redis with database := n } } },
    { long := "queue", short := some 'q',
      effect := Flag.text fun s f => { f with queue := { f.queue with name := s } } },
    { long := "protocol-version",
      effect := Flag.uint8 fun n f => { f with queue := { f.queue with version := n } } },
    { long := "interval", short := some 'i',
      effect := Flag.duration fun d f => { f with interval := some d } },
    { long := "debug", effect := .switch fun f => { f with debug := true } }]
  arguments := [
    fun s f => { f with entity := s },
    fun s f => { f with check := s },
    fun s f => { f with state := s },
    fun s f => { f with summary := s }]

/-- The flags that a command line gives. -/
def parse (words : List String) : Except UsageFault SubmitterFlags :=
  commandLine.parse ∅ {} words

/-- The event at some time. -/
def event (f : SubmitterFlags) (time : Int64) : Event :=
  Event.service f.entity f.check f.state f.summary time

end SubmitterFlags

end AlertRelay
