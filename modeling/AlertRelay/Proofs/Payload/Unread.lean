/-
AlertRelay/Proofs/Payload/Unread.lean

What is not read of a body does not matter.

Seventeen names are looked up in a body (`readNames`), and of the value under each of them only an
outline is seen: what is inside its brackets matters for one more level, and there only scalars do
(`Json.outline`).  So the meaning of a body is a function of these seventeen outlines (`seen`), and
two bodies that hold the same under these names mean the same (`normalize_eq_of_same`).  How
they are spelled, what else they hold and where it stands is then neither here nor there, and it is
not even told in a complaint.

That two values are the same leaves the order of members open, at every depth (`Json.Same`).
-/
import AlertRelay.Proofs.Payload.Meaning

namespace AlertRelay

namespace KeyedMap

variable {α : Type}

theorem lookup_filter (p : String → Bool) (key : String) (entries : List (String × α)) :
    lookup key (entries.filter fun e => p e.1) = if p key then lookup key entries else none := by
  induction entries with
  | nil => simp [lookup]
  | cons e entries ih =>
    by_cases hkey : key = e.1
    · subst hkey
      by_cases hp : p e.1 <;> simp [hp, ih, lookup]
    · by_cases hp : p e.1 <;> simp [hp, ih, lookup, hkey]

/-- **A restriction** to names finds what the map finds under them. -/
theorem get?_filter (m : KeyedMap α) (p : String → Bool) (key : String) :
    (m.filter fun name _ => p name).get? key = if p key then m.get? key else none :=
  lookup_filter p key m.toList

end KeyedMap

namespace Json

/-! ### The same values -/

/-- **The same value** but for the order of members: objects say the same under every name, and of
each name the last member counts. -/
inductive Same : Json → Json → Prop where
  | null : Same .null .null
  | bool (b : Bool) : Same (.bool b) (.bool b)
  | integer (n : Int) : Same (.integer n) (.integer n)
  | float (x : Binary64) : Same (.float x) (.float x)
  | string (s : String) : Same (.string s) (.string s)
  | array {vs vs' : List Json} (items : List.Forall₂ Same vs vs') : Same (.array vs) (.array vs')
  | object {ms ms' : Members}
      (members : ∀ name, Option.Rel Same (lastOf ms name) (lastOf ms' name)) :
      Same (.object ms) (.object ms')

/-- A value is the same as itself. -/
theorem Same.refl : ∀ v : Json, Same v v
  | .null => .null
  | .bool b => .bool b
  | .integer n => .integer n
  | .float x => .float x
  | .string s => .string s
  | .array vs => by
    have hitems : ∀ v ∈ vs, Same v v := fun v _ => Same.refl v
    exact .array (List.forall₂_same.2 hitems)
  | .object ms => by
    refine .object fun name => ?_
    cases hlast : lastOf ms name with
    | none => exact .none
    | some v =>
      have hmem : (name, v) ∈ ms := mem_of_lastOf hlast
      exact .some (Same.refl v)
termination_by v => sizeOf v
decreasing_by
  · have := List.sizeOf_lt_of_mem ‹v ∈ vs›
    simp_wf
    omega
  · have := List.sizeOf_lt_of_mem hmem
    simp_wf
    simp only [Prod.mk.sizeOf_spec] at this
    omega

/-! ### Outlines -/

/-- A scalar, or an empty pair of brackets. -/
def shallow : Json → Json
  | .array _ => .array []
  | .object _ => .object []
  | v => v

/-- What is seen of a value: of an array nothing, and of an object its names and what is shallow. -/
def outline : Json → Json
  | .array _ => .array []
  | .object ms => .object (ms.map fun m => (m.1, m.2.shallow))
  | v => v

theorem asString_shallow (v : Json) : asString v.shallow = asString v := by
  cases v <;> rfl

theorem asString_outline (v : Json) : asString v.outline = asString v := by
  cases v <;> rfl

theorem asInt64_outline (v : Json) : asInt64 v.outline = asInt64 v := by
  cases v <;> rfl

theorem asTexts_outline (v : Json) : asTexts v.outline = asTexts v := by
  cases v with
  | object ms => simp only [outline, asTexts, List.mapM_map, Function.comp_def, asString_shallow]
  | _ => rfl

theorem asNullable_outline {α : Type} {read : Json → Except Cause α}
    (hread : ∀ v, read (outline v) = read v) (v : Json) :
    asNullable read v.outline = asNullable read v := by
  cases v with
  | array vs => exact congrArg (Except.map some) (hread (.array vs))
  | object ms => exact congrArg (Except.map some) (hread (.object ms))
  | _ => rfl

theorem map_eq_of_rel {α β : Type} {R : α → α → Prop} {f : α → β} {o o' : Option α}
    (h : Option.Rel R o o') (hf : ∀ {a a'}, R a a' → f a = f a') : o.map f = o'.map f := by
  cases h with
  | none => rfl
  | some hr => exact congrArg some (hf hr)

theorem Same.shallow_eq {v v' : Json} (h : Same v v') : v.shallow = v'.shallow := by
  cases h <;> rfl

/-- Of values that are the same the same is seen. -/
theorem Same.outline_eq {v v' : Json} (h : Same v v') :
    v.arranged.outline = v'.arranged.outline := by
  cases h with
  | @object ms ms' members =>
    -- one level further down only scalars are seen, so this needs no induction
    have hmaps : (KeyedMap.ofList ms).map shallow = (KeyedMap.ofList ms').map shallow := by
      refine KeyedMap.ext_get? fun name => ?_
      rw [KeyedMap.get?_map, KeyedMap.get?_map, KeyedMap.get?_ofList, KeyedMap.get?_ofList]
      exact map_eq_of_rel (members name) fun same => same.shallow_eq
    exact congrArg (fun m => Json.object m.toList) hmaps
  | _ => rfl

end Json

/-- A field is set from what is seen of a value. -/
theorem Draft.setValue_outline (d : Draft) (f : EventField) (v : Json) :
    d.setValue f v.outline = d.setValue f v := by
  cases f with
  | time => exact congrArg (Except.map _) (Json.asNullable_outline Json.asInt64_outline v)
  | tags => exact congrArg (Except.map _) (Json.asNullable_outline Json.asTexts_outline v)
  | _ => exact congrArg (Except.map _) (Json.asNullable_outline Json.asString_outline v)

namespace Payload

open Json (IsText lastOf Same settled)

/-! ### What is seen of a body -/

/-- The names that are looked up in a body. -/
def readNames : List String :=
  ["entity", "check", "type", "state", "summary", "time", "details", "tags", "ttl",
    "policy_name", "condition_name", "current_state", "incident_acknowledge_url", "incident_url",
    "Message", "SigningCertURL", "SubscribeURL"]

/-- What is seen of the members of a body. -/
def seen (m : KeyedMap Json) : KeyedMap Json :=
  (m.filter fun name _ => decide (name ∈ readNames)).map Json.outline

variable {m : KeyedMap Json}

theorem get?_seen {name : String} (h : name ∈ readNames) :
    (seen m).get? name = (m.get? name).map Json.outline := by
  rw [seen, KeyedMap.get?_map, KeyedMap.get?_filter, if_pos (by simpa using h)]

theorem isNative_seen : isNative (seen m) = isNative m := by
  rw [isNative, isNative, get?_seen (by decide)]
  cases m.get? "entity" with
  | none => rfl
  | some v => cases v <;> rfl

theorem textAt?_seen {name : String} (h : name ∈ readNames) :
    textAt? (seen m) name = textAt? m name := by
  rw [textAt?, textAt?, get?_seen h]
  cases m.get? name with
  | none => rfl
  | some v => cases v <;> rfl

theorem recognise?_alert_seen : Alert.recognise? (seen m) = Alert.recognise? m := by
  have hmembers : Alert.ofMembers? (seen m) = Alert.ofMembers? m := by
    unfold Alert.ofMembers?
    rw [textAt?_seen (by decide), textAt?_seen (by decide), textAt?_seen (by decide),
      textAt?_seen (by decide), textAt?_seen (by decide), textAt?_seen (by decide)]
  rw [Alert.recognise?, Alert.recognise?, hmembers]

theorem recognise?_envelope_seen : Envelope.recognise? (seen m) = Envelope.recognise? m := by
  have hmembers : Envelope.ofMembers? (seen m) = Envelope.ofMembers? m := by
    unfold Envelope.ofMembers?
    rw [textAt?_seen (by decide), textAt?_seen (by decide), textAt?_seen (by decide)]
  rw [Envelope.recognise?, Envelope.recognise?, hmembers]

/-- The fields of an event are among the names that are looked up. -/
theorem name_mem_readNames (f : EventField) : f.name ∈ readNames := by
  cases f <;> decide

/-- Members that are not seen set no field. -/
theorem setMembers_seen (d : Draft) (ms : Json.Members) :
    d.setMembers ((ms.filter fun e => decide (e.1 ∈ readNames)).map fun e => (e.1, e.2.outline)) =
      d.setMembers ms := by
  induction ms generalizing d with
  | nil => rfl
  | cons e ms ih =>
    obtain ⟨name, v⟩ := e
    by_cases hname : name ∈ readNames
    · rw [List.filter_cons_of_pos (by simpa using hname), List.map_cons, Draft.setMembers,
        Draft.setMembers]
      simp only [Draft.setValue_outline, ih]
    · -- a name that is not looked up is no field's
      have hnone : EventField.ofName? name = none := by
        rw [EventField.ofName?, List.find?_eq_none]
        intro f _ hf
        rw [beq_iff_eq] at hf
        exact hname (hf ▸ name_mem_readNames f)
      rw [List.filter_cons_of_neg (by simpa using hname), ih, Draft.setMembers, hnone]

theorem ofMembers_seen : CachedState.ofMembers (seen m) = CachedState.ofMembers m := by
  have httl : CachedState.ttlOf (seen m) = CachedState.ttlOf m := by
    rw [CachedState.ttlOf, CachedState.ttlOf, get?_seen (by decide)]
    cases m.get? CachedState.ttlName with
    | none => rfl
    | some v =>
      exact congrArg (Except.map _) (Json.asNullable_outline Json.asInt64_outline v)
  have hfields : Draft.setMembers {} (seen m).toList = Draft.setMembers {} m.toList :=
    setMembers_seen {} m.toList
  rw [CachedState.ofMembers, CachedState.ofMembers, httl, hfields]

/-- **The meaning of a body** depends on what is seen of it. -/
theorem interpret_seen (m : KeyedMap Json) : interpret (seen m) = interpret m := by
  rw [interpret, interpret, isNative_seen, ofMembers_seen, recognise?_alert_seen,
    recognise?_envelope_seen]

/-! ### Bodies of which the same is seen -/

/-- Two objects hold the same under every name that is looked up. -/
def SameRead (ms ms' : Json.Members) : Prop :=
  ∀ name ∈ readNames, Option.Rel Same (lastOf ms name) (lastOf ms' name)

theorem SameRead.seen_eq {ms ms' : Json.Members} (h : SameRead ms ms') :
    seen (settled ms) = seen (settled ms') := by
  refine KeyedMap.ext_get? fun name => ?_
  by_cases hname : name ∈ readNames
  · rw [get?_seen hname, get?_seen hname, Json.get?_settled, Json.get?_settled, Option.map_map,
      Option.map_map]
    exact Json.map_eq_of_rel (h name hname) fun same => same.outline_eq
  · rw [seen, seen, KeyedMap.get?_map, KeyedMap.get?_map, KeyedMap.get?_filter,
      KeyedMap.get?_filter, if_neg (by simpa using hname), if_neg (by simpa using hname)]

/-- **What is not read does not matter**, and neither does the order of members: two bodies that
hold the same under every name that is looked up mean the same at any time. -/
theorem normalize_eq_of_same {raw raw' : Bytes} {ms ms' : Json.Members}
    (body : IsText (.object ms) raw) (body' : IsText (.object ms') raw')
    (same : SameRead ms ms') (now : Int64) : normalize raw now = normalize raw' now := by
  rw [normalize_of_isText body, normalize_of_isText body', ← interpret_seen (settled ms),
    same.seen_eq, interpret_seen]

/-- A report with two labels. -/
def labelled : Json.Members :=
  [("entity", .string "web"), ("tags", .object [("a", .string "1"), ("b", .string "2")])]

/-- The same report with its members and labels in another order, and one member that is not
read. -/
def relabelled : Json.Members :=
  [("tags", .object [("b", .string "2"), ("a", .string "1")]), ("Subject", .array [.null]),
    ("entity", .string "web")]

theorem sameRead_relabelled : SameRead labelled relabelled := by
  have htags : Same (.object [("a", .string "1"), ("b", .string "2")])
      (.object [("b", .string "2"), ("a", .string "1")]) := by
    refine .object fun name => ?_
    by_cases ha : name = "a"
    · subst ha
      exact .some (.string "1")
    · by_cases hb : name = "b"
      · subst hb
        exact .some (.string "2")
      · simp only [lastOf, List.reverse_cons, List.reverse_nil, List.nil_append, List.cons_append,
          KeyedMap.lookup, if_neg ha, if_neg hb]
        exact .none
  simp only [SameRead, readNames, List.forall_mem_cons]
  exact ⟨.some (.string "web"), .none, .none, .none, .none, .none, .none, .some htags, .none, .none,
    .none, .none, .none, .none, .none, .none, .none, by simp⟩

/-- A text of the one. -/
def labelledBody : Bytes :=
  utf8 "\x7b\"entity\":\"web\",\"tags\":\x7b\"a\":\"1\",\"b\":\"2\"\x7d\x7d"

/-- A text of the other, spelled with escapes. -/
def relabelledBody : Bytes :=
  utf8 "\x7b \"tags\":\x7b\"b\":\"2\",\"a\":\"\\u0031\"\x7d,\"Subject\":[null],
    \"\\u0065ntity\" : \"web\"\x7d"

theorem normalize_eq_of_same_relabelled :
    IsText (.object labelled) labelledBody ∧ IsText (.object relabelled) relabelledBody ∧
      SameRead labelled relabelled ∧ normalize labelledBody 7 = normalize relabelledBody 7 := by
  have hbody : IsText (.object labelled) labelledBody := Json.parse_eq_ok_iff.1 rfl
  have hbody' : IsText (.object relabelled) relabelledBody := Json.parse_eq_ok_iff.1 rfl
  exact ⟨hbody, hbody', sameRead_relabelled,
    normalize_eq_of_same hbody hbody' sameRead_relabelled 7⟩

end Payload

end AlertRelay
