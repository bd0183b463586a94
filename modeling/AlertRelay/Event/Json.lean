/-
AlertRelay/Event/Json.lean

Events and cached states as JSON.

Writing lists the fields in a fixed order and leaves out absent details and labels.  There are
three ways back:

* `Event.read` reads the text of an event, field by field, in any order or as an array in the
  order of the fields; members that are no field are skipped;
* `Event.ofMembers` and `CachedState.ofMembers` take the members of an object that has been read
  already;
* `CachedState.read` reads the text of a cached state: first all members of the object, then the
  event from those that belong to it.

All three fill a `Draft`, in which every field is set at most once.  A field that is `null` counts
as set and empty.
-/
import AlertRelay.Event
import AlertRelay.Json.Field
import AlertRelay.Json.Writer

namespace AlertRelay

/-! ### Writing -/

/-- A list with an optional member at its end. -/
def Json.optional (name : String) (v : Option Json) : Json.Members :=
  match v with
  | none => []
  | some v => [(name, v)]

/-- Labels as an object. -/
def tagsJson (tags : KeyedMap String) : Json :=
  .object (tags.toList.map fun t => (t.1, .string t.2))

/-- The members of an event. -/
def Event.members (e : Event) : Json.Members :=
  [("entity", .string e.entity), ("check", .string e.check), ("type", .string e.type),
    ("state", .string e.state), ("summary", .string e.summary), ("time", .integer e.time.toInt)] ++
    Json.optional "details" (e.details.map .string) ++ Json.optional "tags" (e.tags.map tagsJson)

/-- The text of an event. -/
def Event.json (e : Event) : String :=
  (Json.object e.members).write

/-- A cached state as an object: the event's members and the window. -/
def CachedState.toJson (s : CachedState) : Json :=
  .object (s.event.members ++ [("ttl", .integer s.ttl.toInt)])

/-- The text of a cached state. -/
def CachedState.json (s : CachedState) : String :=
  s.toJson.write

/-! ### Drafts -/

/-- The fields of an event. -/
inductive EventField where
  | entity
  | check
  | type
  | state
  | summary
  | time
  | details
  | tags
deriving DecidableEq, Repr

namespace EventField

/-- The fields in the order of an array. -/
def order : List EventField :=
  [.entity, .check, .type, .state, .summary, .time, .details, .tags]

/-- The name of a field. -/
def name : EventField → String
  | .entity => "entity"
  | .check => "check"
  | .type => "type"
  | .state => "state"
  | .summary => "summary"
  | .time => "time"
  | .details => "details"
  | .tags => "tags"

/-- The field with a name. -/
def ofName? (name : String) : Option EventField :=
  order.find? fun f => f.name == name

end EventField

/-- The fields of an event that have been set, with what they hold. -/
structure Draft where
  entity : Option String := none
  check : Option String := none
  type : Option String := none
  state : Option String := none
  summary : Option String := none
  time : Option Int64 := none
  details : Option (Option String) := none
  tags : Option (Option (KeyedMap String)) := none

namespace Draft

/-- Whether a field has been set. -/
def has (d : Draft) : EventField → Bool
  | .entity => d.entity.isSome
  | .check => d.check.isSome
  | .type => d.type.isSome
  | .state => d.state.isSome
  | .summary => d.summary.isSome
  | .time => d.time.isSome
  | .details => d.details.isSome
  | .tags => d.tags.isSome

/-- The event of a draft; a field that has not been set is empty. -/
def event (d : Draft) : Event where
  entity := d.entity.getD ""
  check := d.check.getD ""
  type := d.type.getD ""
  state := d.state.getD ""
  summary := d.summary.getD ""
  time := d.time.getD 0
  details := d.details.getD none
  tags := d.tags.getD none

/-- Sets a text field; `details` alone can be absent. -/
def setText (d : Draft) (s : Option String) : EventField → Draft
  | .entity => { d with entity := some (s.getD "") }
  | .check => { d with check := some (s.getD "") }
  | .type => { d with type := some (s.getD "") }
  | .state => { d with state := some (s.getD "") }
  | .summary => { d with summary := some (s.getD "") }
  | .details => { d with details := some s }
  | .time => d
  | .tags => d

/-- Sets the time. -/
def setTime (d : Draft) (n : Option Int) : Draft :=
  { d with time := some (Int64.ofInt (n.getD 0)) }

/-- Sets the labels; of labels with the same name the last counts. -/
def setTags (d : Draft) (entries : Option (List (String × String))) : Draft :=
  { d with tags := some (entries.map KeyedMap.ofList) }

/-! ### From values -/

/-- Sets a field from a value. -/
def setValue (d : Draft) (f : EventField) (v : Json) : Except Json.Cause Draft :=
  match f with
  | .time => (Json.asNullable Json.asInt64 v).map d.setTime
  | .tags => (Json.asNullable Json.asTexts v).map d.setTags
  | f => (Json.asNullable Json.asString v).map fun s => d.setText s f

/-- Sets the fields among some members, in order; members that are no field do not matter. -/
def setMembers (d : Draft) : Json.Members → Except Json.Cause Draft
  | [] => .ok d
  | (name, v) :: rest =>
    match EventField.ofName? name with
    | none => setMembers d rest
    | some f =>
      if d.has f then .error (.duplicateField f.name)
      else do
        let d ← d.setValue f v
        setMembers d rest

/-! ### From a text -/

/-- Reads the value of a field. -/
def readField (d : Draft) (f : EventField) (s : Bytes) : Except Json.Fault (Draft × Bytes) :=
  match f with
  | .time => do
    let (n, s) ← Json.nullable Json.readInt64 s
    pure (d.setTime n, s)
  | .tags => do
    let (entries, s) ← Json.nullable Json.readTexts s
    pure (d.setTags entries, s)
  | f => do
    let (t, s) ← Json.nullable Json.readString s
    pure (d.setText t f, s)

/-- Reads one member of an event, from the byte after its name. -/
def readMember (d : Draft) (name : String) (s : Bytes) : Except Json.Fault (Draft × Bytes) :=
  match EventField.ofName? name with
  | none => do
    let s ← Json.colon s
    let s ← Json.skip s
    pure (d, s)
  | some f =>
    if d.has f then Json.giveUp (.duplicateField f.name) s
    else do
      let s ← Json.colon s
      d.readField f s

end Draft

/-- The event that the members of an object describe. -/
def Event.ofMembers (members : KeyedMap Json) : Except Json.Cause Event :=
  (Draft.setMembers {} members.toList).map Draft.event

/-- Reads the text of an event. -/
def Event.read (s : Bytes) : Except Json.Fault (Event × Bytes) := do
  let (d, s) ← Json.record "Event" EventField.order Draft.readField Draft.readMember {} s
  pure (d.event, s)

/-- The event that a whole text spells. -/
def Event.parse (s : Bytes) : Except Json.Complaint Event :=
  Json.readWhole Event.read s

/-! ### Cached states -/

namespace CachedState

/-- The name of the member that holds the window. -/
def ttlName : String := "ttl"

/-- The window among some members, if it is there. -/
def ttlOf (members : KeyedMap Json) : Except Json.Cause Int64 :=
  match members.get? ttlName with
  | none => .ok 0
  | some v => (Json.asNullable Json.asInt64 v).map fun n => Int64.ofInt (n.getD 0)

/-- The state that the members of an object describe.  The window is looked at first. -/
def ofMembers (members : KeyedMap Json) : Except Json.Cause CachedState := do
  let ttl ← ttlOf members
  let d ← Draft.setMembers {} members.toList
  pure ⟨d.event, ttl⟩

/-- The members of a state's text that have been read, the last first, and the window. -/
structure Gathered where
  members : Json.Members := []
  ttl : Option Int64 := none

/-- Reads one member, from the byte after its name.  The window has to be right at once. -/
def Gathered.readMember (g : Gathered) (name : String) (s : Bytes) :
    Except Json.Fault (Gathered × Bytes) :=
  if name = ttlName then
    if g.ttl.isSome then Json.giveUp (.duplicateField ttlName) s
    else do
      let s ← Json.colon s
      let (n, s) ← Json.nullable Json.readInt64 s
      pure ({ g with ttl := some (Int64.ofInt (n.getD 0)) }, s)
  else do
    let s ← Json.colon s
    let (v, s) ← Json.value (Json.maxDepth - 1) s
    pure ({ g with members := (name, v) :: g.members }, s)

/-- Reads the text of a cached state.  What is wrong with the event is reported at the end. -/
def read (s : Bytes) : Except Json.Fault (CachedState × Bytes) :=
  match Json.skipBlank s with
  | 0x7b :: rest => do
    let (g, rest) ← Json.fields Gathered.readMember {} rest
    match Draft.setMembers {} g.members.reverse with
    | .error cause => .error (.taken cause rest)
    | .ok d => pure (⟨d.event, g.ttl.getD 0⟩, rest)
  | rest => Json.mismatch (.record "CachedState") rest

/-- The cached state that a whole text spells. -/
def parse (s : Bytes) : Except Json.Complaint CachedState :=
  Json.readWhole CachedState.read s

end CachedState

end AlertRelay
