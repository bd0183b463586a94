/-
AlertRelay/Payload/Notification.lean

Alarms that arrive inside a signed notification.

The notification is an envelope: its `Message` is the text of the alarm, JSON inside a JSON
string.  Before the first alarm the sender asks for a confirmation instead, by an envelope that
names the address to fetch.  An envelope without the address of a certificate is no notification.

The alarm is read from its own text, so a complaint about it has its place in that text.
-/
import AlertRelay.Payload.Alert

namespace AlertRelay

namespace Payload

/-! ### Envelopes -/

/-- What is read of an envelope. -/
structure Envelope where
  message : String
  signingCertUrl : String
  subscribeUrl : String
deriving DecidableEq, Repr

/-- The envelope that the members of a body describe, if its members have their types. -/
def Envelope.ofMembers? (members : KeyedMap Json) : Option Envelope := do
  let message ← textAt? members "Message"
  let signingCertUrl ← textAt? members "SigningCertURL"
  let subscribeUrl ← textAt? members "SubscribeURL"
  pure ⟨message, signingCertUrl, subscribeUrl⟩

/-- The envelope that a body is, if it is one. -/
def Envelope.recognise? (members : KeyedMap Json) : Option Envelope :=
  match ofMembers? members with
  | none => none
  | some e => if e.signingCertUrl = "" then none else some e

/-! ### Alarms -/

/-- What is read of an alarm. -/
structure Alarm where
  name : String := ""
  description : Json := .null
  reason : String := ""
  value : String := ""
  metric : String := ""

/-- The state that an alarm reports; a description that is no text does not matter. -/
def Alarm.toState (a : Alarm) : CachedState where
  event := {
    entity := a.name
    check := a.metric
    state := alarmState a.value
    summary := a.reason
    details := match a.description with
      | .string s => nonEmpty? s
      | _ => none }

/-- The fields of an alarm. -/
inductive AlarmField where
  | name
  | description
  | reason
  | value
  | trigger
deriving DecidableEq, Repr

namespace AlarmField

/-- The fields in the order of an array. -/
def order : List AlarmField :=
  [.name, .description, .reason, .value, .trigger]

/-- The name of a field in a text. -/
def label : AlarmField → String
  | .name => "AlarmName"
  | .description => "AlarmDescription"
  | .reason => "NewStateReason"
  | .value => "NewStateValue"
  | .trigger => "Trigger"

/-- The field with a name. -/
def ofLabel? (label : String) : Option AlarmField :=
  order.find? fun f => f.label == label

end AlarmField

/-- The name of the only field of a trigger. -/
def metricLabel : String := "MetricName"

/-- Reads a text that may be `null`. -/
def readText (s : Bytes) : Except Json.Fault (String × Bytes) := do
  let (t, s) ← Json.nullable Json.readString s
  pure (t.getD "", s)

/-- Reads the metric into a trigger. -/
def readMetric (_ : Option String) (_ : Unit) (s : Bytes) :
    Except Json.Fault (Option String × Bytes) := do
  let (t, s) ← readText s
  pure (some t, s)

/-- Reads one member of a trigger, from the byte after its name. -/
def readTriggerMember (metric : Option String) (label : String) (s : Bytes) :
    Except Json.Fault (Option String × Bytes) :=
  if label = metricLabel then
    if metric.isSome then Json.giveUp (.duplicateField metricLabel) s
    else do
      let s ← Json.colon s
      readMetric metric () s
  else do
    let s ← Json.colon s
    let s ← Json.skip s
    pure (metric, s)

/-- Reads a trigger: the name of its metric. -/
def readTrigger (s : Bytes) : Except Json.Fault (String × Bytes) := do
  let (metric, s) ← Json.record "Trigger" [()] readMetric readTriggerMember none s
  pure (metric.getD "", s)

/-- The fields of an alarm that have been set, with what they hold. -/
structure AlarmDraft where
  name : Option String := none
  description : Option Json := none
  reason : Option String := none
  value : Option String := none
  metric : Option String := none

namespace AlarmDraft

/-- Whether a field has been set. -/
def has (d : AlarmDraft) : AlarmField → Bool
  | .name => d.name.isSome
  | .description => d.description.isSome
  | .reason => d.reason.isSome
  | .value => d.value.isSome
  | .trigger => d.metric.isSome

/-- The alarm of a draft; a field that has not been set is empty. -/
def alarm (d : AlarmDraft) : Alarm where
  name := d.name.getD ""
  description := d.description.getD .null
  reason := d.reason.getD ""
  value := d.value.getD ""
  metric := d.metric.getD ""

/-- Reads the value of a field. -/
def readField (d : AlarmDraft) (f : AlarmField) (s : Bytes) :
    Except Json.Fault (AlarmDraft × Bytes) := do
  match f with
  | .name =>
    let (t, s) ← readText s
    pure ({ d with name := some t }, s)
  | .description =>
    let (v, s) ← Json.value (Json.maxDepth - 1) s
    pure ({ d with description := some v }, s)
  | .reason =>
    let (t, s) ← readText s
    pure ({ d with reason := some t }, s)
  | .value =>
    let (t, s) ← readText s
    pure ({ d with value := some t }, s)
  | .trigger =>
    let (t, s) ← readTrigger s
    pure ({ d with metric := some t }, s)

/-- Reads one member of an alarm, from the byte after its name. -/
def readMember (d : AlarmDraft) (label : String) (s : Bytes) :
    Except Json.Fault (AlarmDraft × Bytes) :=
  match AlarmField.ofLabel? label with
  | none => do
    let s ← Json.colon s
    let s ← Json.skip s
    pure (d, s)
  | some f =>
    if d.has f then Json.giveUp (.duplicateField f.label) s
    else do
      let s ← Json.colon s
      d.readField f s

end AlarmDraft

/-- Reads the text of an alarm. -/
def Alarm.read (s : Bytes) : Except Json.Fault (Alarm × Bytes) := do
  let (d, s) ←
    Json.record "Alarm" AlarmField.order AlarmDraft.readField AlarmDraft.readMember {} s
  pure (d.alarm, s)

/-- The alarm that a whole text spells. -/
def Alarm.parse (s : Bytes) : Except Json.Complaint Alarm :=
  Json.readWhole Alarm.read s

end Payload

end AlertRelay
