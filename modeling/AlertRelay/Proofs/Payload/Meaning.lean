/-
AlertRelay/Proofs/Payload/Meaning.lean

What every body means.

The shapes are tried in a fixed order, and a table says which one a body has and what follows
(`Means`).  Its rows speak of the object as it was written, of its members by name, and of the text
that the message of a notification is; they do not overlap, and there is one for every body.  The
relay follows the table (`outcome_normalize_iff`).

A complaint says more than the table: where in the text something is wrong, and what.  The table
only says of what kind it is.
-/
import AlertRelay.Proofs.Payload.Alarm
import AlertRelay.Proofs.Payload.Shapes
import Mathlib.Data.List.Forall2

namespace AlertRelay

namespace Payload

open Json (IsText Blank)

/-! ### What is reported -/

/-- A word says that an alarm is raised, whatever the case of its letters. -/
def Raises (word : String) : Prop :=
  List.Forall₂ (fun c letter => c = letter ∨ c = letter.toUpper) word.toList "alarm".toList

theorem toNat_toLower (c : Char) :
    c.toLower.toNat = if 65 ≤ c.toNat ∧ c.toNat ≤ 90 then c.toNat + 32 else c.toNat := by
  unfold Char.toLower
  simp only [Char.reduceVal, ge_iff_le, UInt32.le_iff_toNat_le, UInt32.reduceToNat,
    UInt32.reduceSub]
  show Char.toNat _ = if 65 ≤ c.val.toNat ∧ c.val.toNat ≤ 90 then c.val.toNat + 32 else c.val.toNat
  split_ifs with h
  · show (c.val + 32).toNat = _
    rw [UInt32.toNat_add]
    show (c.val.toNat + 32) % 2 ^ 32 = _
    omega
  · rfl

/-- A letter of the word is found in both cases. -/
theorem toLower_eq_iff {c letter : Char} (h : letter ∈ alarmWord) :
    c.toLower = letter ↔ c = letter ∨ c = letter.toUpper := by
  have hletter : letter.toUpper.toNat = letter.toNat - 32 ∧ 97 ≤ letter.toNat ∧
      letter.toNat ≤ 122 := by
    simp only [alarmWord, List.mem_cons, List.not_mem_nil, or_false] at h
    rcases h with rfl | rfl | rfl | rfl | rfl <;> decide
  rw [← Char.toNat_inj, ← Char.toNat_inj, ← Char.toNat_inj, toNat_toLower]
  split_ifs <;> omega

theorem raises_iff {word : String} : word.toList.map Char.toLower = alarmWord ↔ Raises word := by
  have hword : Raises word ↔
      List.Forall₂ (fun c letter => c = letter ∨ c = letter.toUpper) word.toList alarmWord :=
    Iff.rfl
  rw [← List.forall₂_eq_eq_eq, List.forall₂_map_left_iff, hword, List.forall₂_iff_zip,
    List.forall₂_iff_zip]
  refine and_congr_right fun _ => ⟨fun h c letter hmem => ?_, fun h c letter hmem => ?_⟩
  · exact (toLower_eq_iff (List.of_mem_zip hmem).2).1 (h hmem)
  · exact (toLower_eq_iff (List.of_mem_zip hmem).2).2 (h hmem)

/-- The state of an alarm. -/
inductive StateOf (word : String) : String → Prop where
  | raised (raised : Raises word) : StateOf word "critical"
  | quiet (quiet : ¬ Raises word) : StateOf word "ok"

theorem stateOf_iff {word state : String} : StateOf word state ↔ state = alarmState word := by
  by_cases h : Raises word
  · have hstate : alarmState word = "critical" := by rw [alarmState, if_pos (raises_iff.2 h)]
    rw [hstate]
    constructor
    · intro hs
      cases hs with
      | raised _ => rfl
      | quiet quiet => exact absurd h quiet
    · rintro rfl
      exact .raised h
  · have hstate : alarmState word = "ok" := by
      rw [alarmState, if_neg fun he => h (raises_iff.1 he)]
    rw [hstate]
    constructor
    · intro hs
      cases hs with
      | raised raised => exact absurd raised h
      | quiet _ => rfl
    · rintro rfl
      exact .quiet h

/-- What an alert reports, in some state. -/
def Alert.reports (a : Alert) (state : String) : CachedState where
  event := {
    entity := a.policyName
    check := a.conditionName
    state := state
    summary := if a.acknowledgeUrl = "" then a.details
      else a.details ++ " (acknowledge: " ++ a.acknowledgeUrl ++ ")"
    details := if a.incidentUrl = "" then none else some a.incidentUrl }

/-- What an alarm reports, in some state. -/
def Alarm.reports (a : Alarm) (state : String) : CachedState where
  event := {
    entity := a.name
    check := a.metric
    state := state
    summary := a.reason
    details := match a.description with
      | .string s => if s = "" then none else some s
      | _ => none }

/-! ### The table -/

/-- What comes of a body, complaints aside. -/
inductive Outcome where
  | state (s : CachedState) (shape : Shape)
  | confirmation (url : String)
  | badBody
  | badMessage
deriving DecidableEq

/-- The outcome of a result. -/
def outcome : Except Refusal Normalized → Outcome
  | .ok (.state s shape) => .state s shape
  | .ok (.confirmation url) => .confirmation url
  | .error (.json _) => .badBody
  | .error (.alarmMessage _) => .badMessage

/-- The message of an envelope is the text of an alarm, with blanks around it. -/
def Carries (e : Envelope) (a : Alarm) : Prop :=
  ∃ l t r, Blank l ∧ AlarmText a t ∧ Blank r ∧ utf8 e.message = l ++ (t ++ r)

/-- An alert that names its condition. -/
def IsAlert (ms : Json.Members) (a : Alert) : Prop :=
  AlertOf ms a ∧ a.conditionName ≠ ""

/-- An envelope with the address of a certificate. -/
def IsEnvelope (ms : Json.Members) (e : Envelope) : Prop :=
  EnvelopeOf ms e ∧ e.signingCertUrl ≠ ""

/-- A body that names no entity and is no alert. -/
def Passed (ms : Json.Members) : Prop :=
  ¬ NamesEntity ms ∧ ∀ a, ¬ IsAlert ms a

/-- **What a body means** that arrives at some time. -/
inductive Means (raw : Bytes) (now : Int64) : Outcome → Prop where
  /-- It is not the text of an object. -/
  | unreadable (noObject : ∀ ms, ¬ IsText (.object ms) raw) : Means raw now .badBody
  /-- It names an entity, and its members are of their kinds. -/
  | native {ms : Json.Members} {s : CachedState} (body : IsText (.object ms) raw)
      (entity : NamesEntity ms) (members : NativeOf ms s) :
      Means raw now (.state (s.withDefaults now) .native)
  /-- It names an entity, and one of its members is not. -/
  | mistyped {ms : Json.Members} (body : IsText (.object ms) raw) (entity : NamesEntity ms)
      (mistyped : ∀ s, ¬ NativeOf ms s) : Means raw now .badBody
  /-- It names none and is an alert. -/
  | alert {ms : Json.Members} {a : Alert} {state : String} (body : IsText (.object ms) raw)
      (entity : ¬ NamesEntity ms) (alert : IsAlert ms a) (stateOf : StateOf a.currentState state) :
      Means raw now (.state ((a.reports state).withDefaults now) .newRelic)
  /-- It is no alert either, but an envelope that asks for a confirmation. -/
  | confirmation {ms : Json.Members} {e : Envelope} (body : IsText (.object ms) raw)
      (passed : Passed ms) (envelope : IsEnvelope ms e) (subscribe : e.subscribeUrl ≠ "") :
      Means raw now (.confirmation e.subscribeUrl)
  /-- The envelope carries an alarm. -/
  | alarm {ms : Json.Members} {e : Envelope} {a : Alarm} {state : String}
      (body : IsText (.object ms) raw) (passed : Passed ms) (envelope : IsEnvelope ms e)
      (subscribe : e.subscribeUrl = "") (carries : Carries e a) (stateOf : StateOf a.value state) :
      Means raw now (.state ((a.reports state).withDefaults now) .cloudAlarm)
  /-- The envelope carries something else. -/
  | noAlarm {ms : Json.Members} {e : Envelope} (body : IsText (.object ms) raw)
      (passed : Passed ms) (envelope : IsEnvelope ms e) (subscribe : e.subscribeUrl = "")
      (noAlarm : ∀ a, ¬ Carries e a) : Means raw now .badMessage
  /-- It is nothing that is known. -/
  | unrecognized {ms : Json.Members} (body : IsText (.object ms) raw) (passed : Passed ms)
      (noEnvelope : ∀ e, ¬ IsEnvelope ms e) :
      Means raw now (.state (({} : CachedState).withDefaults now) .unrecognized)

/-! ### The relay follows the table -/

/-- A word of a state is one of the two. -/
theorem exists_stateOf (word : String) : ∃ state, StateOf word state :=
  ⟨_, stateOf_iff.2 rfl⟩

/-- There is a row for every body. -/
theorem exists_means (raw : Bytes) (now : Int64) : ∃ o, Means raw now o := by
  by_cases hbody : ∃ ms, IsText (.object ms) raw
  · obtain ⟨ms, hbody⟩ := hbody
    by_cases hentity : NamesEntity ms
    · by_cases hnative : ∃ s, NativeOf ms s
      · obtain ⟨s, hs⟩ := hnative
        exact ⟨_, .native hbody hentity hs⟩
      · exact ⟨_, .mistyped hbody hentity fun s hs => hnative ⟨s, hs⟩⟩
    · by_cases halert : ∃ a, IsAlert ms a
      · obtain ⟨a, ha⟩ := halert
        obtain ⟨state, hstate⟩ := exists_stateOf a.currentState
        exact ⟨_, .alert hbody hentity ha hstate⟩
      · have hpassed : Passed ms := ⟨hentity, fun a ha => halert ⟨a, ha⟩⟩
        by_cases henvelope : ∃ e, IsEnvelope ms e
        · obtain ⟨e, he⟩ := henvelope
          by_cases hsubscribe : e.subscribeUrl = ""
          · by_cases halarm : ∃ a, Carries e a
            · obtain ⟨a, ha⟩ := halarm
              obtain ⟨state, hstate⟩ := exists_stateOf a.value
              exact ⟨_, .alarm hbody hpassed he hsubscribe ha hstate⟩
            · exact ⟨_, .noAlarm hbody hpassed he hsubscribe fun a ha => halarm ⟨a, ha⟩⟩
          · exact ⟨_, .confirmation hbody hpassed he hsubscribe⟩
        · exact ⟨_, .unrecognized hbody hpassed fun e he => henvelope ⟨e, he⟩⟩
  · exact ⟨_, .unreadable fun ms h => hbody ⟨ms, h⟩⟩

theorem Alert.recognise?_eq_some_iff {ms : Json.Members} {a : Alert} :
    Alert.recognise? (Json.settled ms) = some a ↔ IsAlert ms a := by
  have hfilter : Alert.recognise? (Json.settled ms) =
      (Alert.ofMembers? (Json.settled ms)).filter fun b => b.conditionName ≠ "" := by
    rw [Alert.recognise?]
    cases Alert.ofMembers? (Json.settled ms) <;> simp [Option.filter]
  rw [hfilter, Option.filter_eq_some_iff, Alert.ofMembers?_eq_some_iff, IsAlert, decide_eq_true_iff]

theorem Envelope.recognise?_eq_some_iff {ms : Json.Members} {e : Envelope} :
    Envelope.recognise? (Json.settled ms) = some e ↔ IsEnvelope ms e := by
  have hfilter : Envelope.recognise? (Json.settled ms) =
      (Envelope.ofMembers? (Json.settled ms)).filter fun e => e.signingCertUrl ≠ "" := by
    rw [Envelope.recognise?]
    cases Envelope.ofMembers? (Json.settled ms) <;> simp [Option.filter]
  rw [hfilter, Option.filter_eq_some_iff, Envelope.ofMembers?_eq_some_iff, IsEnvelope,
    decide_eq_true_iff]

theorem Alert.toState_eq {a : Alert} {state : String} (h : StateOf a.currentState state) :
    a.toState = a.reports state := by
  rw [stateOf_iff.1 h]
  rfl

theorem Alarm.toState_eq {a : Alarm} {state : String} (h : StateOf a.value state) :
    a.toState = a.reports state := by
  rw [stateOf_iff.1 h]
  rfl

/-- After a body has been read, only its members matter. -/
theorem normalize_of_isText {raw : Bytes} {ms : Json.Members} (h : IsText (.object ms) raw)
    (now : Int64) :
    normalize raw now = (interpret (Json.settled ms)).map fun n => n.withDefaults now := by
  rw [normalize, ofBody_of_isText h]
  rfl

/-- A body is passed on if neither of the first two shapes is recognised. -/
theorem passed_iff {ms : Json.Members} : Passed ms ↔
    isNative (Json.settled ms) = false ∧ Alert.recognise? (Json.settled ms) = none := by
  rw [← Bool.not_eq_true, isNative_iff, Option.eq_none_iff_forall_ne_some]
  exact and_congr_right fun _ => forall_congr' fun a => not_congr Alert.recognise?_eq_some_iff.symm

/-- A body that is passed on is an envelope or nothing that is known. -/
theorem interpret_of_passed {ms : Json.Members} (h : Passed ms) :
    interpret (Json.settled ms) =
      match Envelope.recognise? (Json.settled ms) with
      | some e => ofEnvelope e
      | none => .ok (.state {} .unrecognized) := by
  obtain ⟨hnative, halert⟩ := passed_iff.1 h
  rewrite [interpret, if_neg (by simp [hnative]), halert]
  rfl

/-- An envelope that asks for nothing is what its message is. -/
theorem interpret_of_envelope {ms : Json.Members} {e : Envelope} (hpassed : Passed ms)
    (he : IsEnvelope ms e) : interpret (Json.settled ms) = ofEnvelope e := by
  rw [interpret_of_passed hpassed, Envelope.recognise?_eq_some_iff.2 he]

theorem carries_iff {e : Envelope} {a : Alarm} :
    Carries e a ↔ Alarm.parse (utf8 e.message) = .ok a :=
  Alarm.parse_eq_ok_iff.symm

/-- The relay does what a row says. -/
theorem outcome_of_means {raw : Bytes} {now : Int64} {o : Outcome} (h : Means raw now o) :
    outcome (normalize raw now) = o := by
  cases h with
  | unreadable noObject =>
    rw [normalize]
    cases hbody : ofBody raw with
    | error c => rfl
    | ok m =>
      obtain ⟨ms, htext, -⟩ := ofBody_eq_ok_iff.1 hbody
      exact absurd htext (noObject ms)
  | @native ms s body entity members =>
    rw [normalize_of_isText body, interpret, if_pos (isNative_iff.2 entity),
      (ofMembers_eq_ok_iff body).2 members]
    rfl
  | @mistyped ms body entity mistyped =>
    rw [normalize_of_isText body, interpret, if_pos (isNative_iff.2 entity)]
    cases hmembers : CachedState.ofMembers (Json.settled ms) with
    | error cause => rfl
    | ok s => exact absurd ((ofMembers_eq_ok_iff body).1 hmembers) (mistyped s)
  | @alert ms a state body entity alert stateOf =>
    have hnative : ¬ isNative (Json.settled ms) = true := fun h => entity (isNative_iff.1 h)
    rw [normalize_of_isText body, interpret, if_neg hnative,
      Alert.recognise?_eq_some_iff.2 alert, ← Alert.toState_eq stateOf]
    rfl
  | @confirmation ms e body passed envelope subscribe =>
    rw [normalize_of_isText body, interpret_of_envelope passed envelope, ofEnvelope,
      if_neg subscribe]
    rfl
  | @alarm ms e a state body passed envelope subscribe carries stateOf =>
    rw [normalize_of_isText body, interpret_of_envelope passed envelope, ofEnvelope,
      if_pos subscribe, carries_iff.1 carries, ← Alarm.toState_eq stateOf]
    rfl
  | @noAlarm ms e body passed envelope subscribe noAlarm =>
    rw [normalize_of_isText body, interpret_of_envelope passed envelope, ofEnvelope,
      if_pos subscribe]
    cases hmessage : Alarm.parse (utf8 e.message) with
    | error c => rfl
    | ok a => exact absurd (carries_iff.2 hmessage) (noAlarm a)
  | @unrecognized ms body passed noEnvelope =>
    have hnone : Envelope.recognise? (Json.settled ms) = none := by
      rw [Option.eq_none_iff_forall_ne_some]
      exact fun e he => noEnvelope e (Envelope.recognise?_eq_some_iff.1 he)
    rw [normalize_of_isText body, interpret_of_passed passed, hnone]
    rfl

/-- **The relay follows the table**: it makes of every body, at any time, what the one row says that
fits the body. -/
theorem outcome_normalize_iff (raw : Bytes) (now : Int64) (o : Outcome) :
    outcome (normalize raw now) = o ↔ Means raw now o := by
  constructor
  · rintro rfl
    obtain ⟨o, h⟩ := exists_means raw now
    rwa [outcome_of_means h]
  · exact outcome_of_means

end Payload

end AlertRelay
