/-
AlertRelay/Proofs/Payload/Message.lean

Which notifications are cached.

An envelope that asks for nothing is cached if its message is the text of an alarm, and refused
otherwise, with a complaint about the message; there is nothing between the two
(`cached_iff_carries`).  A message that is no JSON, a scalar, or an object with a member of another
kind or one of the five given twice is refused.

The text of an alarm is the text of a record, though, and a record may be an array of its fields.
So a message that is no object at all can be cached as an alarm, even an empty array
(`cached_listBody`).
-/
import AlertRelay.Proofs.Payload.Meaning

namespace AlertRelay

namespace Payload

open Json (IsText)

variable {raw : Bytes} {ms : Json.Members} {e : Envelope}

/-- What becomes of an envelope that carries an alarm. -/
theorem normalize_of_carries (body : IsText (.object ms) raw) (passed : Passed ms)
    (envelope : IsEnvelope ms e) (subscribe : e.subscribeUrl = "") {a : Alarm}
    (carries : Carries e a) (now : Int64) :
    normalize raw now = .ok (.state (a.toState.withDefaults now) .cloudAlarm) := by
  rw [normalize_of_isText body, interpret_of_envelope passed envelope, ofEnvelope,
    if_pos subscribe, carries_iff.1 carries]
  rfl

/-- What becomes of one that carries none. -/
theorem exists_complaint (body : IsText (.object ms) raw) (passed : Passed ms)
    (envelope : IsEnvelope ms e) (subscribe : e.subscribeUrl = "") (none : ∀ a, ¬ Carries e a)
    (now : Int64) : ∃ c, normalize raw now = .error (.alarmMessage c) := by
  rw [normalize_of_isText body, interpret_of_envelope passed envelope, ofEnvelope,
    if_pos subscribe]
  cases hmessage : Alarm.parse (utf8 e.message) with
  | ok a => exact absurd (carries_iff.2 hmessage) (none a)
  | error c => exact ⟨c, rfl⟩

/-- **An envelope is cached** if it carries an alarm, and otherwise its message is refused. -/
theorem cached_iff_carries (body : IsText (.object ms) raw) (passed : Passed ms)
    (envelope : IsEnvelope ms e) (subscribe : e.subscribeUrl = "") (now : Int64) :
    ((∃ s, normalize raw now = .ok (.state s .cloudAlarm)) ↔ ∃ a, Carries e a) ∧
      ((∃ c, normalize raw now = .error (.alarmMessage c)) ↔ ∀ a, ¬ Carries e a) := by
  by_cases hcarries : ∃ a, Carries e a
  · obtain ⟨a, ha⟩ := hcarries
    have hcached := normalize_of_carries body passed envelope subscribe ha now
    rw [hcached]
    exact ⟨iff_of_true ⟨_, rfl⟩ ⟨a, ha⟩, iff_of_false (by simp) fun hnone => hnone a ha⟩
  · have hnone : ∀ a, ¬ Carries e a := not_exists.1 hcarries
    obtain ⟨c, hc⟩ := exists_complaint body passed envelope subscribe hnone now
    rw [hc]
    exact ⟨iff_of_false (by simp) hcarries, iff_of_true ⟨c, rfl⟩ hnone⟩

/-! ### An alarm, and a list -/

/-- The members of an envelope with some message. -/
def notification (message : String) : Json.Members :=
  [("Message", .string message), ("SigningCertURL", .string "https://sns/cert.pem")]

/-- What is read of it. -/
def notified (message : String) : Envelope :=
  ⟨message, "https://sns/cert.pem", ""⟩

theorem passed_notification (message : String) : Passed (notification message) := by
  refine ⟨fun hentity => ?_, fun a ha => ha.2 ha.1.conditionName⟩
  obtain ⟨v, hv, -⟩ := hentity
  cases hv

theorem isEnvelope_notification (message : String) :
    IsEnvelope (notification message) (notified message) :=
  ⟨⟨rfl, rfl, rfl⟩, (by decide : "https://sns/cert.pem" ≠ "")⟩

/-- The text of an alarm. -/
def alarmMessage : String :=
  "\x7b\"AlarmName\":\"api\",\"Trigger\":\x7b\x7d\x7d"

/-- A notification of it. -/
def alarmBody : Bytes :=
  utf8 "\x7b\"Message\":\"\x7b\\\"AlarmName\\\":\\\"api\\\",\\\"Trigger\\\":\x7b\x7d\x7d\",
    \"SigningCertURL\":\"https://sns/cert.pem\"\x7d"

theorem cached_iff_carries_alarmBody :
    IsText (.object (notification alarmMessage)) alarmBody ∧ Passed (notification alarmMessage) ∧
      IsEnvelope (notification alarmMessage) (notified alarmMessage) ∧
      (notified alarmMessage).subscribeUrl = "" ∧
      ∃ s, normalize alarmBody 1700000000 = .ok (.state s .cloudAlarm) := by
  have hbody : IsText (.object (notification alarmMessage)) alarmBody := Json.parse_eq_ok_iff.1 rfl
  have hpassed := passed_notification alarmMessage
  have henvelope := isEnvelope_notification alarmMessage
  have hcarries : ∃ a, Carries (notified alarmMessage) a := ⟨_, carries_iff.2 rfl⟩
  exact ⟨hbody, hpassed, henvelope, rfl,
    (cached_iff_carries hbody hpassed henvelope rfl 1700000000).1.2 hcarries⟩

/-- The fields of an alarm as a list. -/
def listMessage : String :=
  "[\"api\",null,\"down\",\"ALARM\",[\"latency\"]]"

/-- A notification of the list. -/
def listBody : Bytes :=
  utf8 "\x7b\"Message\":\"[\\\"api\\\",null,\\\"down\\\",\\\"ALARM\\\",[\\\"latency\\\"]]\",
    \"SigningCertURL\":\"https://sns/cert.pem\"\x7d"

/-- **A message that is no object** can be cached. -/
theorem cached_listBody :
    IsText (.object (notification listMessage)) listBody ∧ Passed (notification listMessage) ∧
      IsEnvelope (notification listMessage) (notified listMessage) ∧
      (notified listMessage).subscribeUrl = "" ∧
      (∀ ms, ¬ IsText (.object ms) (utf8 listMessage)) ∧
      ∃ s, normalize listBody 1700000000 = .ok (.state s .cloudAlarm) ∧ s.event.entity = "api" := by
  refine ⟨Json.parse_eq_ok_iff.1 rfl, passed_notification _, isEnvelope_notification _, rfl,
    fun ms hms => ?_, _, rfl, rfl⟩
  have hlist : Json.parse (utf8 listMessage) = .ok (.array [.string "api", .null, .string "down",
    .string "ALARM", .array [.string "latency"]]) := rfl
  rw [Json.parse_eq_ok_iff.2 hms] at hlist
  cases hlist

end Payload

end AlertRelay
