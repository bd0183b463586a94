/-
AlertRelay/Proofs/Event/Json.lean

Events, read back as they were written.

An event is written as the members of its fields (`Event.membersOf`), and both ways back set one
field after the other.  On the way a draft holds just the fields that have been met so far
(`Event.draft`), so one step is one field more, whether it comes from the text (`readField_draft`)
or from a value (`setValue_draft`), and a run of steps is a list of fields in any order.  A field
that is left out is empty in the draft as in the event.

Both ways set a field at most once, so the fields of a run must differ; nothing else is asked.
-/
import AlertRelay.Event.Json
import AlertRelay.Proofs.Json.Value

namespace AlertRelay

namespace Json

/-! ### Typed values -/

/-- A value that does not begin like `null` is read as what it is. -/
theorem nullable_cons {α : Type} {read : Reader α} {b : UInt8} (hblank : isBlank b = false)
    (hnull : b ≠ 0x6e) {s rest : Bytes} {a : α} (h : read (b :: s) = .ok (a, rest)) :
    nullable read (b :: s) = .ok (some a, rest) := by
  unfold nullable
  rw [skipBlank_cons hblank]
  split
  · rename_i he
    exact absurd (List.cons.inj he).1 hnull
  · simp [h, bind, Except.bind, pure, Except.pure]

theorem readString_chars (s : String) (rest : Bytes) :
    readString (spelled (chars (.string s)) ++ rest) = .ok (s, rest) := by
  rw [spelled_chars_string, readString, skipBlank_cons (by decide)]
  exact text_escaped s rest

theorem nullable_readString (s : String) (rest : Bytes) :
    nullable readString (spelled (chars (.string s)) ++ rest) = .ok (some s, rest) := by
  have h := readString_chars s rest
  rw [spelled_chars_string] at h ⊢
  exact nullable_cons (by decide) (by decide) h

/-- Words of 64 bits are whole numbers. -/
theorem isWhole_toInt (x : Int64) : IsWhole x.toInt := by
  have hleast := x.le_toInt
  have hgreatest := x.toInt_lt
  have hword : wordSize = 2 * Nat.pow 2 63 := by decide
  have hpow : Nat.pow 2 63 = 9223372036854775808 := by decide
  exact ⟨by omega, by omega⟩

theorem int64Of_toInt (x : Int64) : int64Of (.integer x.toInt) = .ok x.toInt := by
  have hle : x.toInt ≤ int64Max := by
    have := x.toInt_lt
    have hpow : Nat.pow 2 63 = 9223372036854775808 := by decide
    rw [int64Max]
    omega
  simp [int64Of, hle]

theorem nullable_readInt64 (x : Int64) {rest : Bytes} (hrest : Ends rest) :
    nullable readInt64 (spelled (chars (.integer x.toInt)) ++ rest) = .ok (some x.toInt, rest) := by
  have hread := number_toString (isWhole_toInt x) hrest
  obtain ⟨b, bs, hb, hfirst⟩ := spelled_toString_eq_cons x.toInt
  obtain ⟨hblank, -, -, hnull, -⟩ := number_begins hfirst
  rw [hb, List.cons_append] at hread
  rw [chars, hb, List.cons_append]
  refine nullable_cons hblank hnull ?_
  simp [readInt64, skipBlank_cons hblank, hfirst, hread, int64Of_toInt, bind, Except.bind, pure,
    Except.pure]

theorem readsMembers_textMember (entries done : List (String × String)) :
    ReadsMembers textMember done (entries.map fun t => (t.1, .string t.2))
      (entries.reverse ++ done) := by
  induction entries generalizing done with
  | nil => exact .nil done
  | cons t entries ih =>
    have hstep : ReadsMember textMember done (t.1, .string t.2) (t :: done) := by
      intro rest _
      simp [textMember, colon, skipBlank_cons (b := 0x3a) (by decide), readString_chars, bind,
        Except.bind, pure, Except.pure]
    rw [List.reverse_cons, List.append_assoc]
    exact .cons hstep (ih (t :: done))

theorem nullable_readTexts (tags : KeyedMap String) (rest : Bytes) :
    nullable readTexts (spelled (chars (tagsJson tags)) ++ rest) =
      .ok (some tags.toList, rest) := by
  have hread := fields_memberChars (readsMembers_textMember tags.toList []) rest
  rw [tagsJson, chars, spelled_open, List.cons_append]
  refine nullable_cons (by decide) (by decide) ?_
  simp [readTexts, skipBlank_cons (b := 0x7b) (by decide), hread, bind, Except.bind, pure,
    Except.pure]

theorem asTexts_tagsJson (tags : KeyedMap String) :
    asTexts (tagsJson tags) = .ok tags.toList := by
  rw [tagsJson, asTexts]
  generalize tags.toList = entries
  induction entries with
  | nil => rfl
  | cons t entries ih =>
    rw [List.map_cons, List.mapM_cons, ih]
    rfl

end Json

/-! ### Fields and their members -/

namespace EventField

/-- Fields are found by their names. -/
theorem ofName?_name (f : EventField) : ofName? f.name = some f := by
  cases f <;> decide

end EventField

namespace Event

/-- The value of a field, if it is written. -/
def value? (e : Event) : EventField → Option Json
  | .entity => some (.string e.entity)
  | .check => some (.string e.check)
  | .type => some (.string e.type)
  | .state => some (.string e.state)
  | .summary => some (.string e.summary)
  | .time => some (.integer e.time.toInt)
  | .details => e.details.map .string
  | .tags => e.tags.map tagsJson

/-- The members of some fields. -/
def membersOf (e : Event) (fs : List EventField) : Json.Members :=
  fs.filterMap fun f => (e.value? f).map fun v => (f.name, v)

theorem members_eq (e : Event) : e.members = e.membersOf EventField.order := by
  obtain ⟨_, _, _, _, _, _, details, tags⟩ := e
  cases details <;> cases tags <;> rfl

/-- The draft of an event in which some fields have been met. -/
def draft (e : Event) (done : List EventField) : Draft where
  entity := if .entity ∈ done then some e.entity else none
  check := if .check ∈ done then some e.check else none
  type := if .type ∈ done then some e.type else none
  state := if .state ∈ done then some e.state else none
  summary := if .summary ∈ done then some e.summary else none
  time := if .time ∈ done then some e.time else none
  details := if .details ∈ done then e.details.map some else none
  tags := if .tags ∈ done then e.tags.map some else none

theorem draft_nil (e : Event) : e.draft [] = {} := rfl

variable {e : Event} {done : List EventField} {f : EventField}

theorem has_draft (hf : f ∉ done) : (e.draft done).has f = false := by
  cases f <;> simp [draft, Draft.has, hf]

/-- A field that is not written leaves the draft as it is. -/
theorem draft_cons_of_value?_eq_none (hv : e.value? f = none) :
    e.draft (f :: done) = e.draft done := by
  cases f with
  | details => simp_all [value?, draft]
  | tags => simp_all [value?, draft]
  | _ => cases hv

/-- A draft in which every field has been met is the event. -/
theorem event_draft (h : ∀ f, f ∈ done) : (e.draft done).event = e := by
  obtain ⟨_, _, _, _, _, _, details, tags⟩ := e
  cases details <;> cases tags <;> simp [draft, Draft.event, h]

/-! ### One field -/

/-- **A value** of an event is its time, its labels, or a text. -/
theorem value_cases {v : Json} (hv : e.value? f = some v) :
    (f = .time ∧ v = .integer e.time.toInt) ∨
      (∃ tags, f = .tags ∧ e.tags = some tags ∧ v = tagsJson tags) ∨
      ∃ t, f ≠ .time ∧ f ≠ .tags ∧ v = .string t := by
  cases f with
  | time => exact .inl ⟨rfl, (Option.some.inj hv).symm⟩
  | tags =>
    obtain ⟨tags, hsome, rfl⟩ := Option.map_eq_some_iff.1 hv
    exact .inr (.inl ⟨tags, rfl, hsome, rfl⟩)
  | details =>
    obtain ⟨t, -, rfl⟩ := Option.map_eq_some_iff.1 hv
    exact .inr (.inr ⟨t, by decide, by decide, rfl⟩)
  | _ => exact .inr (.inr ⟨_, by decide, by decide, (Option.some.inj hv).symm⟩)

theorem setText_draft {t : String} (hv : e.value? f = some (.string t)) :
    (e.draft done).setText (some t) f = e.draft (f :: done) := by
  -- the time and the labels hold no text, so their cases are empty
  cases f <;> simp_all [value?, draft, Draft.setText, tagsJson]

theorem setTime_draft : (e.draft done).setTime (some e.time.toInt) = e.draft (.time :: done) := by
  simp [draft, Draft.setTime]

theorem setTags_draft {tags : KeyedMap String} (htags : e.tags = some tags) :
    (e.draft done).setTags (some tags.toList) = e.draft (.tags :: done) := by
  simp [draft, Draft.setTags, htags, KeyedMap.ofList_toList]

/-- **From a value**: one field more. -/
theorem setValue_draft {v : Json} (hv : e.value? f = some v) :
    (e.draft done).setValue f v = .ok (e.draft (f :: done)) := by
  obtain ⟨rfl, rfl⟩ | ⟨tags, rfl, hsome, rfl⟩ | ⟨t, htime, htags, rfl⟩ := value_cases hv
  · simp [Draft.setValue, Json.asNullable, Json.asInt64, Json.int64Of_toInt, Except.map,
      setTime_draft]
  · have htexts : Json.asNullable Json.asTexts (tagsJson tags) = .ok (some tags.toList) := by
      show (Json.asTexts (tagsJson tags)).map some = _
      rw [Json.asTexts_tagsJson]
      rfl
    simp [Draft.setValue, htexts, Except.map, setTags_draft hsome]
  · have hset : (e.draft done).setText (some t) f = e.draft (f :: done) := setText_draft hv
    unfold Draft.setValue
    split
    · exact absurd rfl htime
    · exact absurd rfl htags
    · simp [Json.asNullable, Json.asString, Except.map, hset]

/-- **From the text**: one field more. -/
theorem readField_draft {v : Json} (hv : e.value? f = some v) {rest : Bytes}
    (hrest : Json.Ends rest) :
    (e.draft done).readField f (spelled (Json.chars v) ++ rest) =
      .ok (e.draft (f :: done), rest) := by
  obtain ⟨rfl, rfl⟩ | ⟨tags, rfl, hsome, rfl⟩ | ⟨t, htime, htags, rfl⟩ := value_cases hv
  · simp [Draft.readField, Json.nullable_readInt64 _ hrest, bind, Except.bind, pure, Except.pure,
      setTime_draft]
  · simp [Draft.readField, Json.nullable_readTexts, bind, Except.bind, pure, Except.pure,
      setTags_draft hsome]
  · have hset : (e.draft done).setText (some t) f = e.draft (f :: done) := setText_draft hv
    unfold Draft.readField
    split
    · exact absurd rfl htime
    · exact absurd rfl htags
    · simp [Json.nullable_readString, bind, Except.bind, pure, Except.pure, hset]

/-! ### A list of fields -/

/-- The members of one field and of others. -/
theorem membersOf_cons_of_some {v : Json} (hv : e.value? f = some v) (fs : List EventField) :
    e.membersOf (f :: fs) = (f.name, v) :: e.membersOf fs := by
  simp [membersOf, hv]

theorem membersOf_cons_of_none (hv : e.value? f = none) (fs : List EventField) :
    e.membersOf (f :: fs) = e.membersOf fs := by
  simp [membersOf, hv]

/-- A field that is met once has not been met before. -/
theorem not_mem_of_nodup {fs : List EventField} (h : (fs.reverse ++ f :: done).Nodup) :
    f ∉ done :=
  (List.nodup_cons.1 (List.nodup_append.1 h).2.1).1

/-- **From members**: as many fields more, if none is met twice. -/
theorem setMembers_membersOf {fs : List EventField} (h : (fs.reverse ++ done).Nodup)
    (more : Json.Members) :
    (e.draft done).setMembers (e.membersOf fs ++ more) =
      (e.draft (fs.reverse ++ done)).setMembers more := by
  induction fs generalizing done with
  | nil => rfl
  | cons f fs ih =>
    rw [List.reverse_cons, List.append_assoc, List.singleton_append] at h ⊢
    rw [← ih h]
    cases hv : e.value? f with
    -- a field that is not written is met without a step
    | none => rw [membersOf_cons_of_none hv, draft_cons_of_value?_eq_none hv]
    | some v =>
      rw [membersOf_cons_of_some hv, List.cons_append, Draft.setMembers]
      simp [EventField.ofName?_name, has_draft (not_mem_of_nodup h), setValue_draft hv, bind,
        Except.bind]

/-- **From the text**: as many fields more, if none is met twice. -/
theorem readsMembers_membersOf {fs : List EventField} (h : (fs.reverse ++ done).Nodup) :
    Json.ReadsMembers Draft.readMember (e.draft done) (e.membersOf fs)
      (e.draft (fs.reverse ++ done)) := by
  induction fs generalizing done with
  | nil => exact .nil _
  | cons f fs ih =>
    rw [List.reverse_cons, List.append_assoc, List.singleton_append] at h ⊢
    have htail := ih h
    cases hv : e.value? f with
    | none =>
      rw [draft_cons_of_value?_eq_none hv] at htail
      rwa [membersOf_cons_of_none hv]
    | some v =>
      have hhead : Json.ReadsMember Draft.readMember (e.draft done) (f.name, v)
          (e.draft (f :: done)) := by
        intro rest hrest
        simp [Draft.readMember, EventField.ofName?_name, has_draft (not_mem_of_nodup h), Json.colon,
          Json.skipBlank_cons (b := 0x3a) (by decide), readField_draft hv hrest, bind, Except.bind]
      rw [membersOf_cons_of_some hv]
      exact .cons hhead htail

/-! ### Events -/

/-- **The text of an event** is read back, to the event and to nothing else. -/
theorem parse_json (e : Event) : parse (utf8 e.json) = .ok e := by
  have hfields : Json.ReadsMembers Draft.readMember (e.draft []) (e.membersOf EventField.order)
      (e.draft (EventField.order.reverse ++ [])) := readsMembers_membersOf (by decide)
  have hread := Json.fields_memberChars hfields []
  have hall : (e.draft (EventField.order.reverse ++ [])).event = e :=
    event_draft fun f => by cases f <;> decide
  rw [← members_eq, draft_nil, List.append_nil] at hread
  rw [json, Json.utf8_write_object]
  simp only [parse, Json.readWhole, read, Json.record,
    Json.skipBlank_cons (b := 0x7b) (by decide), hread, bind, Except.bind, pure, Except.pure, hall]
  rfl

end Event

end AlertRelay
