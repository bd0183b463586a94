/-
AlertRelay/Event.lean

Events and cached states.

An event says how one check of one monitored thing stands.  It is what the consumers of the queue
understand, and they refuse one without entity, check, state or summary (`Event.missing?`).  A
cached state is an event together with the time for which it stays believable:

* `ttl > 0` is the number of seconds after which silence makes it stale;
* `ttl < 0` marks a one-shot state, which is sent once and then dropped;
* `ttl = 0` stands only before `withDefaults`.

Times and windows are signed words of 64 bits.  The elapsed time is computed without overflow and
cut off at the ends of the word (`elapsed`), so a state observed at the beginning of time is stale
and not young.
-/
import AlertRelay.KeyedMap

namespace AlertRelay

/-! ### Events -/

/-- A status report about one check of one entity. -/
structure Event where
  /-- The monitored thing. -/
  entity : String := ""
  /-- The check of it that reports. -/
  check : String := ""
  /-- The category of the report. -/
  type : String := ""
  /-- How the check stands. -/
  state : String := ""
  /-- A line about it. -/
  summary : String := ""
  /-- Seconds since the epoch. -/
  time : Int64 := 0
  /-- More about it. -/
  details : Option String := none
  /-- Labels. -/
  tags : Option (KeyedMap String) := none
deriving DecidableEq, Inhabited

/-- A required field that is empty. -/
inductive MissingField where
  | entity
  | check
  | state
  | summary
deriving DecidableEq, Repr

/-- The complaint about a missing field. -/
def MissingField.message : MissingField → String
  | .entity => "No entity"
  | .check => "No check"
  | .state => "No state"
  | .summary => "No summary"

/-- The usual category. -/
def serviceType : String := "service"

namespace Event

/-- A report about a service check. -/
def service (entity check state summary : String) (time : Int64) : Event :=
  ⟨entity, check, serviceType, state, summary, time, none, none⟩

/-- The event with details. -/
def withDetails (e : Event) (details : String) : Event :=
  { e with details := some details }

/-- The event with one more label, in place of one of the same name. -/
def withTag (e : Event) (name value : String) : Event :=
  { e with tags := some ((e.tags.getD ∅).insert name value) }

/-- The key under which a report replaces the one before it. -/
def key (e : Event) : String :=
  e.entity ++ ":" ++ e.check

/-- The first of the required fields that is empty. -/
def missing? (e : Event) : Option MissingField :=
  if e.entity = "" then some .entity
  else if e.check = "" then some .check
  else if e.state = "" then some .state
  else if e.summary = "" then some .summary
  else none

end Event

/-! ### Cached states -/

/-- An event and the time for which it is believed. -/
structure CachedState where
  event : Event := {}
  ttl : Int64 := 0
deriving DecidableEq, Inhabited

/-- The label that names the relay an event came through. -/
def fromBroker : String := "from_broker"

/-- The value of that label for events that came without one. -/
def brokerName : String := "httpbroker"

/-- The window of states that came without one. -/
def defaultTtl : Int64 := 300

/-- The state of a report that is no longer believed. -/
def staleState : String := "UNKNOWN"

/-- The seconds from one time to another, cut off at the ends of the word. -/
def elapsed (since now : Int64) : Int64 :=
  Int64.ofInt (max Int64.minValue.toInt (min Int64.maxValue.toInt (now.toInt - since.toInt)))

namespace CachedState

/-- The key under which the state is cached. -/
def key (s : CachedState) : String :=
  s.event.key

/-- Whether the state is sent once and then dropped. -/
def isOneShot (s : CachedState) : Bool :=
  s.ttl < 0

/-- How long ago the state was observed, if that is longer than it is believed. -/
def staleFor (s : CachedState) (now : Int64) : Option Int64 :=
  let age := elapsed s.event.time now
  if 0 ≤ s.ttl ∧ s.ttl < age then some age else none

/-- Labels with the name of the relay, unless they have one. -/
def defaultTags (tags : Option (KeyedMap String)) : KeyedMap String :=
  let tags := tags.getD ∅
  if (tags.get? fromBroker).getD "" = "" then tags.insert fromBroker brokerName else tags

/-- The state with everything that an accepted state has: a time, a category, a window and the
name of the relay. -/
def withDefaults (s : CachedState) (now : Int64) : CachedState where
  event := { s.event with
    time := if s.event.time = 0 then now else s.event.time
    type := if s.event.type = "" then serviceType else s.event.type
    tags := some (defaultTags s.event.tags) }
  ttl := if s.ttl = 0 then defaultTtl else s.ttl

/-- The summary of a stale report. -/
def staleSummary (age ttl : Int64) : String :=
  brokerName ++ ": Cached state is stale (" ++ toString age.toInt ++ "s old, should be < " ++
    toString ttl.toInt ++ "s)"

/-- The event that is sent for a state at some time: the report itself while it is believed, and
afterwards that nothing is known. -/
def outgoing (s : CachedState) (now : Int64) : Event :=
  match s.staleFor now with
  | none => { s.event with time := now }
  | some age =>
    { s.event with time := now, state := staleState, summary := staleSummary age s.ttl }

end CachedState

end AlertRelay
