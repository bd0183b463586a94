/-
AlertRelay/Proofs/Payload/Alarm.lean

The texts of an alarm.

An alarm is a record with five fields, one of which is a record with one field (`TriggerText`,
`AlarmText`).  The reader of alarms takes exactly these texts, and from each of them the alarm that
it spells (`Alarm.parse_eq_ok_iff`).

A record may be an array: then its items are the values of the fields in order.  Nothing makes an
exception of alarms, so the text of an alarm need not be the text of an object.
-/
import AlertRelay.Payload.Notification
import AlertRelay.Proofs.Json.Record

namespace AlertRelay

namespace Payload

open Json (Reads Given RecordText TextOrNull Spells Form ReadsField Formed)

theorem reads_readText : Reads readText TextOrNull :=
  Json.reads_nullable_readString

/-! ### Triggers -/

/-- What a trigger holds, if these are the texts of its fields. -/
def SpelledMetric (metric : String) (given : String → Option Bytes) : Prop :=
  Given TextOrNull "" (given metricLabel) metric

/-- **The text of a trigger**: the name of its metric is a text, `null` or left out. -/
def TriggerText (metric : String) : Bytes → Prop :=
  RecordText [metricLabel] (SpelledMetric metric)

/-- The form of a trigger. -/
def triggerForm : Form (Option String) Unit Bytes where
  order := [()]
  label _ := metricLabel
  has metric _ := metric.isSome
  sets _ _ t metric := ∃ x, TextOrNull x t ∧ metric = some x
  other := Formed

theorem lawful_triggerForm : triggerForm.Lawful where
  all := by simp [triggerForm]
  distinct := by simp [triggerForm, Form.labels]
  sets := by
    rintro _ _ _ _ ⟨x, -, rfl⟩ _
    simp [triggerForm]

theorem reads_readMetric (metric : Option String) (u : Unit) :
    Reads (readMetric metric u) fun metric' t => triggerForm.sets metric u t metric' :=
  reads_readText.map some

theorem readsField_readTriggerMember : ReadsField readTriggerMember triggerForm.Member := by
  refine Json.readsField_form rfl (fun _ => .duplicateField metricLabel) reads_readMetric
    fun metric label s => ?_
  by_cases hlabel : label = metricLabel
  · simp [readTriggerMember, Form.named?, triggerForm, hlabel]
    rfl
  · have hne : ¬ metricLabel = label := fun he => hlabel he.symm
    simp [readTriggerMember, Form.named?, triggerForm, hlabel, hne]

theorem describes_triggerForm :
    triggerForm.Describes none (fun metric => metric.getD "") SpelledMetric where
  empty _ := rfl
  gathered h := lawful_triggerForm.given () id "" (fun h => h) (fun hne _ => absurd rfl hne) rfl h
  settable := by
    intro metric given _ t hgiven hvalue _
    have hvalue : given metricLabel = some t := hvalue
    rw [SpelledMetric, hvalue] at hgiven
    exact ⟨some metric, metric, hgiven, rfl⟩
  unique ha hb := ha.unique reads_readText hb

theorem reads_readTrigger : Reads readTrigger TriggerText :=
  Json.reads_record lawful_triggerForm rfl describes_triggerForm reads_readMetric
    readsField_readTriggerMember

/-! ### Alarms -/

/-- What an alarm holds, if these are the texts of its fields. -/
structure Alarm.Spelled (a : Alarm) (given : String → Option Bytes) : Prop where
  name : Given TextOrNull "" (given "AlarmName") a.name
  description : Given (Spells (Json.maxDepth - 1)) .null (given "AlarmDescription") a.description
  reason : Given TextOrNull "" (given "NewStateReason") a.reason
  value : Given TextOrNull "" (given "NewStateValue") a.value
  metric : Given TriggerText "" (given "Trigger") a.metric

/-- The names of the fields. -/
def alarmLabels : List String :=
  ["AlarmName", "AlarmDescription", "NewStateReason", "NewStateValue", "Trigger"]

/-- **The text of an alarm**: name, reason and value are each a text, `null` or left out, the
trigger is one or left out, and the description is any value or left out. -/
def AlarmText (a : Alarm) : Bytes → Prop :=
  RecordText alarmLabels a.Spelled

namespace AlarmDraft

/-- What a field sets. -/
def Sets (d : AlarmDraft) (f : AlarmField) (t : Bytes) (d' : AlarmDraft) : Prop :=
  match f with
  | .name => ∃ x, TextOrNull x t ∧ d' = { d with name := some x }
  | .description => ∃ v, Spells (Json.maxDepth - 1) v t ∧ d' = { d with description := some v }
  | .reason => ∃ x, TextOrNull x t ∧ d' = { d with reason := some x }
  | .value => ∃ x, TextOrNull x t ∧ d' = { d with value := some x }
  | .trigger => ∃ x, TriggerText x t ∧ d' = { d with metric := some x }

/-- The form of an alarm. -/
def form : Form AlarmDraft AlarmField Bytes where
  order := AlarmField.order
  label := AlarmField.label
  has := has
  sets := Sets
  other := Formed

theorem lawful_form : form.Lawful where
  all := by
    intro f
    cases f <;> decide
  distinct := by decide
  sets := by
    intro d f t d' h f'
    cases f <;> obtain ⟨x, -, rfl⟩ := h <;> cases f' <;> simp [form, has]

theorem reads_readField (d : AlarmDraft) (f : AlarmField) :
    Reads (d.readField f) fun d' t => form.sets d f t d' := by
  cases f with
  | name => exact reads_readText.map fun x => { d with name := some x }
  | description => exact (Json.reads_value _).map fun v => { d with description := some v }
  | reason => exact reads_readText.map fun x => { d with reason := some x }
  | value => exact reads_readText.map fun x => { d with value := some x }
  | trigger => exact reads_readTrigger.map fun x => { d with metric := some x }

theorem readsField_readMember : ReadsField readMember form.Member :=
  Json.readsField_form rfl (fun f => .duplicateField f.label) reads_readField fun d label s => by
    unfold readMember AlarmField.ofLabel? Form.named? form
    cases List.find? (fun f => f.label == label) AlarmField.order with
    | none => rfl
    | some f => rfl

/-- A field leaves the others as they are. -/
theorem Sets.others {d d' : AlarmDraft} {f : AlarmField} {t : Bytes} (h : d.Sets f t d') :
    (f ≠ .name → d'.name = d.name) ∧ (f ≠ .description → d'.description = d.description) ∧
      (f ≠ .reason → d'.reason = d.reason) ∧ (f ≠ .value → d'.value = d.value) ∧
      (f ≠ .trigger → d'.metric = d.metric) := by
  cases f <;> obtain ⟨x, -, rfl⟩ := h <;> simp

/-- What has been gathered is what the members spell. -/
theorem spelled_of_gathers {ms : List (String × Bytes)} {d : AlarmDraft}
    (h : Json.Gathers form.Member {} ms d) : d.alarm.Spelled (Json.valueAt ms) where
  name := lawful_form.given .name AlarmDraft.name ""
    (fun ⟨x, hx, he⟩ => ⟨x, hx, he ▸ rfl⟩) (fun hne hset => hset.others.1 hne) rfl h
  description := lawful_form.given .description AlarmDraft.description .null
    (fun ⟨x, hx, he⟩ => ⟨x, hx, he ▸ rfl⟩) (fun hne hset => hset.others.2.1 hne) rfl h
  reason := lawful_form.given .reason AlarmDraft.reason ""
    (fun ⟨x, hx, he⟩ => ⟨x, hx, he ▸ rfl⟩) (fun hne hset => hset.others.2.2.1 hne) rfl h
  value := lawful_form.given .value AlarmDraft.value ""
    (fun ⟨x, hx, he⟩ => ⟨x, hx, he ▸ rfl⟩) (fun hne hset => hset.others.2.2.2.1 hne) rfl h
  metric := lawful_form.given .trigger AlarmDraft.metric ""
    (fun ⟨x, hx, he⟩ => ⟨x, hx, he ▸ rfl⟩) (fun hne hset => hset.others.2.2.2.2 hne) rfl h

/-- What an alarm holds can be read, field by field. -/
theorem settable {a : Alarm} {given : String → Option Bytes} {f : AlarmField} {t : Bytes}
    (h : a.Spelled given) (hf : given f.label = some t) (d : AlarmDraft) : ∃ d', d.Sets f t d' := by
  obtain ⟨name, description, reason, value, metric⟩ := h
  cases f <;> simp only [AlarmField.label] at hf
  · rw [hf] at name
    exact ⟨_, _, name, rfl⟩
  · rw [hf] at description
    exact ⟨_, _, description, rfl⟩
  · rw [hf] at reason
    exact ⟨_, _, reason, rfl⟩
  · rw [hf] at value
    exact ⟨_, _, value, rfl⟩
  · rw [hf] at metric
    exact ⟨_, _, metric, rfl⟩

end AlarmDraft

theorem Alarm.Spelled.unique {a b : Alarm} {given : String → Option Bytes} (ha : a.Spelled given)
    (hb : b.Spelled given) : a = b := by
  have hname := ha.name.unique reads_readText hb.name
  have hdescription := ha.description.unique (Json.reads_value _) hb.description
  have hreason := ha.reason.unique reads_readText hb.reason
  have hvalue := ha.value.unique reads_readText hb.value
  have hmetric := ha.metric.unique reads_readTrigger hb.metric
  cases a
  cases b
  simp_all

theorem AlarmDraft.describes : AlarmDraft.form.Describes {} AlarmDraft.alarm Alarm.Spelled where
  empty f := by cases f <;> rfl
  gathered := spelled_of_gathers
  settable := settable
  unique := Alarm.Spelled.unique

/-- **An alarm is read** from its texts, and from nothing else. -/
theorem reads_alarm : Reads Alarm.read AlarmText :=
  Json.reads_record AlarmDraft.lawful_form rfl AlarmDraft.describes AlarmDraft.reads_readField
    AlarmDraft.readsField_readMember

/-- **A whole text** is an alarm if it is a text of one with blanks around it. -/
theorem Alarm.parse_eq_ok_iff {s : Bytes} {a : Alarm} :
    Alarm.parse s = .ok a ↔
      ∃ l t r, Json.Blank l ∧ AlarmText a t ∧ Json.Blank r ∧ s = l ++ (t ++ r) :=
  reads_alarm.readWhole_eq_ok_iff

end Payload

end AlertRelay
