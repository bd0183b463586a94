/-
AlertRelay/Payload/Alert.lean

Alerts as New Relic posts them.

Six members of the body are read and each of them is a text, `null` or absent; a body in which one
of them is anything else is no alert at all, and neither is one without the name of a condition.
So recognition never complains: it answers the alert or nothing.
-/
import AlertRelay.Event.Json

namespace AlertRelay

namespace Payload

/-- A member that is a text, `null` or absent (the last two read as empty); `none` when it is
anything else. -/
def textAt? (members : KeyedMap Json) (name : String) : Option String :=
  match members.get? name with
  | none => some ""
  | some .null => some ""
  | some (.string s) => some s
  | some _ => none

/-- The word for a raised alarm, in lower case. -/
def alarmWord : List Char := ['a', 'l', 'a', 'r', 'm']

/-- The state of an alarm: critical while it is raised, whatever the case of its letters. -/
def alarmState (word : String) : String :=
  if word.toList.map Char.toLower = alarmWord then "critical" else "ok"

/-- A text unless it is empty. -/
def nonEmpty? (s : String) : Option String :=
  if s = "" then none else some s

/-- What is read of an alert. -/
structure Alert where
  policyName : String
  conditionName : String
  currentState : String
  details : String
  acknowledgeUrl : String
  incidentUrl : String
deriving DecidableEq, Repr

namespace Alert

/-- The alert that the members of a body describe, if its members have their types. -/
def ofMembers? (members : KeyedMap Json) : Option Alert := do
  let policyName ← textAt? members "policy_name"
  let conditionName ← textAt? members "condition_name"
  let currentState ← textAt? members "current_state"
  let details ← textAt? members "details"
  let acknowledgeUrl ← textAt? members "incident_acknowledge_url"
  let incidentUrl ← textAt? members "incident_url"
  pure ⟨policyName, conditionName, currentState, details, acknowledgeUrl, incidentUrl⟩

/-- The details, and where to acknowledge the incident. -/
def summary (a : Alert) : String :=
  if a.acknowledgeUrl = "" then a.details
  else a.details ++ " (acknowledge: " ++ a.acknowledgeUrl ++ ")"

/-- The state that an alert reports. -/
def toState (a : Alert) : CachedState where
  event := {
    entity := a.policyName
    check := a.conditionName
    state := alarmState a.currentState
    summary := a.summary
    details := nonEmpty? a.incidentUrl }

/-- The alert that a body is, if it is one. -/
def recognise? (members : KeyedMap Json) : Option Alert :=
  match ofMembers? members with
  | none => none
  | some a => if a.conditionName = "" then none else some a

end Alert

end Payload

end AlertRelay
