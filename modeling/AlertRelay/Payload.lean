/-
AlertRelay/Payload.lean

What a posted body means.

Senders post their reports in three shapes, and nothing but the members of the body tells them
apart.  They are tried in a fixed order: a body that names an entity is a report in the relay's own
shape, whatever else it holds; then alerts; then notifications.  A body of no known shape is still
accepted, as a state without content, so that a sender with a new format is seen and not lost.

Only a report in the relay's own shape can be refused for the type of a member; the other shapes
are simply not recognised then.
-/
import AlertRelay.Payload.Notification

namespace AlertRelay

/-- The shape in which a state was posted. -/
inductive Shape where
  | native
  | newRelic
  | cloudAlarm
  | unrecognized
deriving DecidableEq, Repr

/-- The name of a shape. -/
def Shape.name : Shape → String
  | .native => "native"
  | .newRelic => "new_relic"
  | .cloudAlarm => "cloud_alarm"
  | .unrecognized => "unrecognized"

/-- What a body means. -/
inductive Normalized where
  /-- A state to be cached. -/
  | state (s : CachedState) (shape : Shape)
  /-- A subscription that is to be confirmed by fetching an address. -/
  | confirmation (url : String)
deriving DecidableEq

/-- Why a body means nothing. -/
inductive Refusal where
  /-- It is not the text of an object, or a member has the wrong type. -/
  | json (c : Json.Complaint)
  /-- The message of a notification is no alarm. -/
  | alarmMessage (c : Json.Complaint)
deriving DecidableEq, Repr

/-- A refusal in words. -/
def Refusal.message : Refusal → String
  | .json c => "Couldn't read request body: " ++ c.message
  | .alarmMessage c => "Couldn't read alarm from the notification message: " ++ c.message

namespace Payload

/-! ### Bodies -/

/-- Reads the members of an object. -/
def readMembers (s : Bytes) : Except Json.Fault (Json.Members × Bytes) :=
  match Json.skipBlank s with
  | 0x7b :: rest => Json.members (Json.value (Json.maxDepth - 1)) rest
  | rest => Json.mismatch .map rest

/-- The members of a body, each name once. -/
def ofBody (raw : Bytes) : Except Json.Complaint (KeyedMap Json) :=
  (Json.readWhole readMembers raw).map Json.settled

/-! ### Shapes -/

/-- Whether a body is a report in the relay's own shape: it names an entity. -/
def isNative (members : KeyedMap Json) : Bool :=
  match members.get? "entity" with
  | none => false
  | some .null => false
  | some (.string s) => s != ""
  | some _ => true

/-- What an envelope carries. -/
def ofEnvelope (e : Envelope) : Except Refusal Normalized :=
  if e.subscribeUrl = "" then
    match Alarm.parse (utf8 e.message) with
    | .ok a => .ok (.state a.toState .cloudAlarm)
    | .error c => .error (.alarmMessage c)
  else .ok (.confirmation e.subscribeUrl)

/-- What the members of a body mean, before anything is filled in. -/
def interpret (members : KeyedMap Json) : Except Refusal Normalized :=
  if isNative members then
    match CachedState.ofMembers members with
    | .ok s => .ok (.state s .native)
    | .error cause => .error (.json (.bare cause))
  else
    match Alert.recognise? members with
    | some a => .ok (.state a.toState .newRelic)
    | none =>
      match Envelope.recognise? members with
      | some e => ofEnvelope e
      | none => .ok (.state {} .unrecognized)

end Payload

/-- A state with its defaults filled in; a confirmation as it is. -/
def Normalized.withDefaults (n : Normalized) (now : Int64) : Normalized :=
  match n with
  | .state s shape => .state (s.withDefaults now) shape
  | .confirmation url => .confirmation url

/-- What a body that arrives at some time means. -/
def normalize (raw : Bytes) (now : Int64) : Except Refusal Normalized := do
  let members ← (Payload.ofBody raw).mapError .json
  let n ← Payload.interpret members
  pure (n.withDefaults now)

end AlertRelay
