/-
AlertRelay/Proofs/Payload/Shapes.lean

The three shapes of a body, said of the object as it was written.

Each shape has a list of members that it reads, and for each of them a kind: a text, a word of 64
bits, an object of texts.  A body has the shape if each of these members is of its kind, `null` or
left out (`NativeOf`, `AlertOf`, `EnvelopeOf`); the last member of a name is the one that counts.
The functions that recognise a shape decide this, and find what is written there
(`ofMembers_eq_ok_iff`, `Alert.ofMembers?_eq_some_iff`, `Envelope.ofMembers?_eq_some_iff`).
-/
import AlertRelay.Proofs.Event.Json
import AlertRelay.Proofs.Payload.Body

namespace AlertRelay

namespace Json

/-! ### Kinds of members -/

/-- A text. -/
def IsString (s : String) (v : Json) : Prop :=
  v = .string s

/-- A text that is kept as it is, or nothing. -/
def IsOptional (s : Option String) (v : Json) : Prop :=
  ∃ x, v = .string x ∧ s = some x

/-- A signed word of 64 bits. -/
def IsWord (w : Int64) (v : Json) : Prop :=
  v = .integer w.toInt

/-- An object of texts: of each name the last member counts. -/
def IsLabels (tags : Option (KeyedMap String)) (v : Json) : Prop :=
  ∃ ms m, v = .object ms ∧ tags = some m ∧
    ∀ name, lastOf ms name = (m.get? name).map Json.string

/-- A member is what it was before it was arranged, if its kind does not care. -/
theorem holds_arranged_iff {α : Type} {P : α → Json → Prop} {default a : α}
    (hP : ∀ v, P a (arranged v) ↔ P a v) (v : Option Json) :
    Holds P default (v.map arranged) a ↔ Holds P default v a := by
  cases v with
  | none => exact Iff.rfl
  | some v =>
    cases v with
    | null => exact Iff.rfl
    | object ms => exact hP (.object ms)
    | _ => exact hP _

theorem isString_arranged (s : String) (v : Json) : IsString s (arranged v) ↔ IsString s v := by
  cases v <;> simp [IsString, arranged]

theorem isOptional_arranged (s : Option String) (v : Json) :
    IsOptional s (arranged v) ↔ IsOptional s v := by
  cases v <;> simp [IsOptional, arranged]

theorem isWord_arranged (w : Int64) (v : Json) : IsWord w (arranged v) ↔ IsWord w v := by
  cases v <;> simp [IsWord, arranged]

/-- Members in ascending order are found from both ends. -/
theorem lookup_reverse {α : Type} {entries : List (String × α)} (h : Ascending entries)
    (name : String) : KeyedMap.lookup name entries.reverse = KeyedMap.lookup name entries := by
  have hmap := KeyedMap.get?_ofList entries name
  rw [← hmap, KeyedMap.get?, KeyedMap.toList_ofList h (List.Perm.refl _)]

theorem lastOf_listing (ms : Members) (name : String) :
    lastOf (KeyedMap.ofList ms).toList name = lastOf ms name := by
  rw [lastOf, lookup_reverse (KeyedMap.ofList ms).ascending, lastOf, ← KeyedMap.get?_ofList]
  rfl

theorem isLabels_arranged (tags : Option (KeyedMap String)) (v : Json) :
    IsLabels tags (arranged v) ↔ IsLabels tags v := by
  cases v with
  | object ms =>
    constructor
    · rintro ⟨ms', m, he, rfl, hm⟩
      cases he
      exact ⟨ms, m, rfl, rfl, fun name => by rw [← hm, lastOf_listing]⟩
    · rintro ⟨ms', m, he, rfl, hm⟩
      cases he
      exact ⟨_, m, rfl, rfl, fun name => by rw [lastOf_listing, hm]⟩
  | _ => exact Iff.rfl

/-! ### Values of these kinds -/

/-- A value that may be `null` is one of its kind otherwise. -/
theorem exists_asNullable_iff {α β : Type} {read : Json → Except Cause α} (out : Option α → β)
    {P : β → Json → Prop} {v : Json} {b : β}
    (hread : (∃ a, read v = .ok a ∧ b = out (some a)) ↔ P b v) :
    (∃ o, asNullable read v = .ok o ∧ b = out o) ↔ OrNull P (out none) b v := by
  have hsome : v ≠ .null → ((∃ o, asNullable read v = .ok o ∧ b = out o) ↔ P b v) := by
    intro hnull
    have hv : asNullable read v = (read v).map some := by
      unfold asNullable
      split
      · exact absurd rfl hnull
      · rfl
    rw [← hread, hv]
    cases read v <;> simp [Except.map]
  cases v with
  | null => simp [asNullable, OrNull]
  | _ => exact hsome (by simp)

theorem asString_eq_ok_iff {v : Json} {s : String} : asString v = .ok s ↔ v = .string s := by
  cases v <;> simp [asString]

theorem asString_iff {v : Json} {s : String} :
    (∃ x, asString v = .ok x ∧ s = x) ↔ IsString s v := by
  simp [asString_eq_ok_iff, IsString]

theorem asOptional_iff {v : Json} {s : Option String} :
    (∃ x, asString v = .ok x ∧ s = some x) ↔ IsOptional s v := by
  simp [asString_eq_ok_iff, IsOptional]

theorem asWord_iff {v : Json} (hv : ∀ n, v = .integer n → IsWhole n) {w : Int64} :
    (∃ n, asInt64 v = .ok n ∧ w = Int64.ofInt n) ↔ IsWord w v := by
  have hpow : Nat.pow 2 63 = 9223372036854775808 := by decide
  have hmax : int64Max = 9223372036854775807 := by decide
  cases v with
  | integer n =>
    obtain ⟨hleast, -⟩ := hv n rfl
    simp only [asInt64, IsWord, Json.integer.injEq]
    constructor
    · rintro ⟨m, hm, rfl⟩
      by_cases hle : n ≤ int64Max
      · rw [int64Of, if_pos hle] at hm
        cases hm
        exact (Int64.toInt_ofInt_of_le (by omega) (by omega)).symm
      · rw [int64Of, if_neg hle] at hm
        cases hm
    · rintro rfl
      exact ⟨_, int64Of_toInt w, (Int64.ofInt_toInt w).symm⟩
  | _ => simp [asInt64, IsWord]

theorem asTexts_eq_ok_iff {ms : Members} {entries : List (String × String)} :
    asTexts (.object ms) = .ok entries ↔ ms = entries.map fun e => (e.1, .string e.2) := by
  rw [asTexts]
  induction ms generalizing entries with
  | nil => cases entries <;> simp [pure, Except.pure]
  | cons m ms ih =>
    obtain ⟨name, v⟩ := m
    rw [List.mapM_cons, bind_eq_ok]
    constructor
    · rintro ⟨e, he, hrest⟩
      obtain ⟨s, hs, he⟩ := bind_eq_ok.1 he
      obtain ⟨entries', htail, hdone⟩ := bind_eq_ok.1 hrest
      cases he
      cases hdone
      have hv : v = .string s := asString_eq_ok_iff.1 hs
      rw [List.map_cons, ih.1 htail, hv]
    · intro h
      cases entries with
      | nil => cases h
      | cons e entries =>
        rw [List.map_cons] at h
        obtain ⟨hm, hms⟩ := List.cons.inj h
        obtain ⟨rfl, rfl⟩ := Prod.mk.inj hm
        exact ⟨e, rfl, bind_eq_ok.2 ⟨entries, ih.2 hms, rfl⟩⟩

/-- Labels are read from members of different names. -/
theorem asLabels_iff {ms : Members} (h : Ascending ms) {tags : Option (KeyedMap String)} :
    (∃ entries, asTexts (.object ms) = .ok entries ∧ tags = some (KeyedMap.ofList entries)) ↔
      IsLabels tags (.object ms) := by
  have hlookup : ∀ (entries : List (String × String)) (name : String),
      KeyedMap.lookup name (entries.map fun e => (e.1, Json.string e.2)) =
        (KeyedMap.lookup name entries).map Json.string := by
    intro entries name
    induction entries with
    | nil => rfl
    | cons e entries ih =>
      rw [List.map_cons, KeyedMap.lookup, KeyedMap.lookup]
      split_ifs
      · rfl
      · exact ih
  constructor
  · rintro ⟨entries, hentries, rfl⟩
    rw [asTexts_eq_ok_iff] at hentries
    refine ⟨ms, _, rfl, rfl, fun name => ?_⟩
    rw [KeyedMap.get?_ofList, ← hlookup, List.map_reverse, ← hentries, lastOf]
  · rintro ⟨ms', m, he, rfl, hm⟩
    cases he
    refine ⟨m.toList, ?_, by rw [KeyedMap.ofList_toList]⟩
    rw [asTexts_eq_ok_iff]
    have hascending : Ascending (m.toList.map fun e => (e.1, Json.string e.2)) :=
      (m.map Json.string).ascending
    refine KeyedMap.toList_eq_of_lookup_eq h hascending fun name => ?_
    rw [← lookup_reverse h, hlookup]
    exact hm name

end Json

/-! ### Reports in the relay's own shape -/

namespace Draft

open Json (Form Given)

/-- The form of an event, filled from values. -/
def form : Form Draft EventField Json where
  order := EventField.order
  label := EventField.name
  has := has
  sets d f v d' := d.setValue f v = .ok d'
  other _ := True

theorem setMembers_eq_ok_iff {d d' : Draft} {ms : Json.Members} :
    d.setMembers ms = .ok d' ↔ Json.Gathers form.Member d ms d' := by
  -- a member whose name is no field's is passed by, another one must be new
  induction ms generalizing d with
  | nil =>
    constructor
    · intro h
      cases h
      exact .nil _
    · intro h
      cases h
      rfl
  | cons m ms ih =>
    obtain ⟨name, v⟩ := m
    have hnamed : form.named? name = EventField.ofName? name := rfl
    constructor
    · intro h
      rw [setMembers] at h
      cases hname : EventField.ofName? name with
      | none =>
        simp only [hname] at h
        refine .cons ?_ (ih.1 h)
        rw [Form.Member, hnamed, hname]
        exact ⟨trivial, rfl⟩
      | some f =>
        simp only [hname] at h
        split_ifs at h with hset
        obtain ⟨d₁, hvalue, hrest⟩ := bind_eq_ok.1 h
        refine .cons ?_ (ih.1 hrest)
        rw [Form.Member, hnamed, hname]
        exact ⟨Bool.eq_false_of_not_eq_true hset, hvalue⟩
    · intro h
      cases h with
      | @cons _ d₁ _ _ _ _ head tail =>
        rw [Form.Member, hnamed] at head
        rw [setMembers]
        cases hname : EventField.ofName? name with
        | none =>
          simp only [hname] at head ⊢
          rw [← head.2]
          exact ih.2 tail
        | some f =>
          simp only [hname] at head ⊢
          have hnew : d.has f = false := head.1
          rw [if_neg (by simp [hnew])]
          exact bind_eq_ok.2 ⟨d₁, head.2, ih.2 tail⟩

/-- What a value sets. -/
theorem setValue_eq_ok_iff {d d' : Draft} {f : EventField} {v : Json} :
    d.setValue f v = .ok d' ↔
      match f with
      | .time => ∃ n, Json.asNullable Json.asInt64 v = .ok n ∧ d' = d.setTime n
      | .tags => ∃ entries, Json.asNullable Json.asTexts v = .ok entries ∧ d' = d.setTags entries
      | f => ∃ s, Json.asNullable Json.asString v = .ok s ∧ d' = d.setText s f := by
  have hmap : ∀ {α : Type} {x : Except Json.Cause α} {out : α → Draft},
      x.map out = .ok d' ↔ ∃ a, x = .ok a ∧ d' = out a := by
    intro α x out
    cases x <;> simp [Except.map, eq_comm]
  cases f <;> exact hmap

theorem lawful_form : form.Lawful where
  all := by
    intro f
    cases f <;> decide
  distinct := by decide
  sets := by
    intro d f v d' h f'
    have h := setValue_eq_ok_iff.1 h
    cases f <;> obtain ⟨x, -, rfl⟩ := h <;> cases f' <;> simp [form, has, setText, setTime, setTags]

/-- A field leaves the others as they are. -/
theorem others_of_setValue {d d' : Draft} {f : EventField} {v : Json}
    (h : d.setValue f v = .ok d') :
    (f ≠ .entity → d'.entity = d.entity) ∧ (f ≠ .check → d'.check = d.check) ∧
      (f ≠ .type → d'.type = d.type) ∧ (f ≠ .state → d'.state = d.state) ∧
      (f ≠ .summary → d'.summary = d.summary) ∧ (f ≠ .time → d'.time = d.time) ∧
      (f ≠ .details → d'.details = d.details) ∧ (f ≠ .tags → d'.tags = d.tags) := by
  have h := setValue_eq_ok_iff.1 h
  cases f <;> obtain ⟨x, -, rfl⟩ := h <;> simp [setText, setTime, setTags]

end Draft

namespace Json

/-- What a value is read as: a text, or nothing for the empty one. -/
def ReadText (s : String) (v : Json) : Prop :=
  ∃ o, asNullable asString v = .ok o ∧ s = o.getD ""

/-- A text or nothing. -/
def ReadOptional (s : Option String) (v : Json) : Prop :=
  ∃ o, asNullable asString v = .ok o ∧ s = o

/-- A word, or nothing for zero. -/
def ReadWord (w : Int64) (v : Json) : Prop :=
  ∃ o, asNullable asInt64 v = .ok o ∧ w = Int64.ofInt (o.getD 0)

/-- Labels or nothing. -/
def ReadLabels (tags : Option (KeyedMap String)) (v : Json) : Prop :=
  ∃ o, asNullable asTexts v = .ok o ∧ tags = o.map KeyedMap.ofList

end Json

/-- What an event holds, if these are the values of its fields. -/
structure Event.ReadFrom (e : Event) (given : String → Option Json) : Prop where
  entity : Json.Given Json.ReadText "" (given "entity") e.entity
  check : Json.Given Json.ReadText "" (given "check") e.check
  type : Json.Given Json.ReadText "" (given "type") e.type
  state : Json.Given Json.ReadText "" (given "state") e.state
  summary : Json.Given Json.ReadText "" (given "summary") e.summary
  time : Json.Given Json.ReadWord 0 (given "time") e.time
  details : Json.Given Json.ReadOptional none (given "details") e.details
  tags : Json.Given Json.ReadLabels none (given "tags") e.tags

namespace Draft

open Json (Form)

/-- What a value has set is what it is read as. -/
theorem read_of_set {α β : Type} {read : Json → Except Json.Cause β} {set : β → Draft}
    {slot : Draft → Option α} {out : β → α} {v : Json} {d : Draft}
    (h : ∃ b, read v = .ok b ∧ d = set b) (hslot : ∀ b, slot (set b) = some (out b)) :
    ∃ a, (∃ b, read v = .ok b ∧ a = out b) ∧ slot d = some a := by
  obtain ⟨b, hread, rfl⟩ := h
  exact ⟨_, ⟨b, hread, rfl⟩, hslot b⟩

/-- What has been gathered is what the values say. -/
theorem readFrom_of_gathers {ms : Json.Members} {d : Draft}
    (h : Json.Gathers form.Member {} ms d) : d.event.ReadFrom (Json.valueAt ms) where
  entity := lawful_form.given .entity Draft.entity ""
    (fun hset => read_of_set (setValue_eq_ok_iff.1 hset) fun _ => rfl)
    (fun hne hset => (others_of_setValue hset).1 hne) rfl h
  check := lawful_form.given .check Draft.check ""
    (fun hset => read_of_set (setValue_eq_ok_iff.1 hset) fun _ => rfl)
    (fun hne hset => (others_of_setValue hset).2.1 hne) rfl h
  type := lawful_form.given .type Draft.type ""
    (fun hset => read_of_set (setValue_eq_ok_iff.1 hset) fun _ => rfl)
    (fun hne hset => (others_of_setValue hset).2.2.1 hne) rfl h
  state := lawful_form.given .state Draft.state ""
    (fun hset => read_of_set (setValue_eq_ok_iff.1 hset) fun _ => rfl)
    (fun hne hset => (others_of_setValue hset).2.2.2.1 hne) rfl h
  summary := lawful_form.given .summary Draft.summary ""
    (fun hset => read_of_set (setValue_eq_ok_iff.1 hset) fun _ => rfl)
    (fun hne hset => (others_of_setValue hset).2.2.2.2.1 hne) rfl h
  time := lawful_form.given .time Draft.time 0
    (fun hset => read_of_set (setValue_eq_ok_iff.1 hset) fun _ => rfl)
    (fun hne hset => (others_of_setValue hset).2.2.2.2.2.1 hne) rfl h
  details := lawful_form.given .details Draft.details none
    (fun hset => read_of_set (setValue_eq_ok_iff.1 hset) fun _ => rfl)
    (fun hne hset => (others_of_setValue hset).2.2.2.2.2.2.1 hne) rfl h
  tags := lawful_form.given .tags Draft.tags none
    (fun hset => read_of_set (setValue_eq_ok_iff.1 hset) fun _ => rfl)
    (fun hne hset => (others_of_setValue hset).2.2.2.2.2.2.2 hne) rfl h

/-- What an event holds can be set, field by field. -/
theorem settable {e : Event} {given : String → Option Json} {f : EventField} {v : Json}
    (h : e.ReadFrom given) (hf : given f.name = some v) (d : Draft) :
    ∃ d', d.setValue f v = .ok d' := by
  have hread : ∀ {α : Type} {P : α → Json → Prop} {default a : α},
      Json.Given P default (given f.name) a → P a v := by
    intro α P default a hgiven
    rw [hf] at hgiven
    exact hgiven
  cases f with
  | entity => obtain ⟨s, hs, -⟩ := hread h.entity; exact ⟨_, setValue_eq_ok_iff.2 ⟨s, hs, rfl⟩⟩
  | check => obtain ⟨s, hs, -⟩ := hread h.check; exact ⟨_, setValue_eq_ok_iff.2 ⟨s, hs, rfl⟩⟩
  | type => obtain ⟨s, hs, -⟩ := hread h.type; exact ⟨_, setValue_eq_ok_iff.2 ⟨s, hs, rfl⟩⟩
  | state => obtain ⟨s, hs, -⟩ := hread h.state; exact ⟨_, setValue_eq_ok_iff.2 ⟨s, hs, rfl⟩⟩
  | summary => obtain ⟨s, hs, -⟩ := hread h.summary; exact ⟨_, setValue_eq_ok_iff.2 ⟨s, hs, rfl⟩⟩
  | time => obtain ⟨n, hn, -⟩ := hread h.time; exact ⟨_, setValue_eq_ok_iff.2 ⟨n, hn, rfl⟩⟩
  | details => obtain ⟨s, hs, -⟩ := hread h.details; exact ⟨_, setValue_eq_ok_iff.2 ⟨s, hs, rfl⟩⟩
  | tags => obtain ⟨l, hl, -⟩ := hread h.tags; exact ⟨_, setValue_eq_ok_iff.2 ⟨l, hl, rfl⟩⟩

end Draft

/-- A default or what is read in its place is unique, if reading is a function. -/
theorem Json.Given.eq {α β : Type} {read : Json → Except Json.Cause β} {out : β → α}
    {default a a' : α} {given : Option Json}
    (ha : Json.Given (fun a v => ∃ b, read v = .ok b ∧ a = out b) default given a)
    (ha' : Json.Given (fun a v => ∃ b, read v = .ok b ∧ a = out b) default given a') : a = a' := by
  cases given with
  | none => exact ha.trans ha'.symm
  | some v =>
    obtain ⟨b, hb, rfl⟩ := ha
    obtain ⟨b', hb', rfl⟩ := ha'
    rw [hb] at hb'
    cases hb'
    rfl

theorem Event.ReadFrom.unique {e e' : Event} {given : String → Option Json}
    (h : e.ReadFrom given) (h' : e'.ReadFrom given) : e = e' := by
  have hentity := h.entity.eq h'.entity
  have hcheck := h.check.eq h'.check
  have htype := h.type.eq h'.type
  have hstate := h.state.eq h'.state
  have hsummary := h.summary.eq h'.summary
  have htime := h.time.eq h'.time
  have hdetails := h.details.eq h'.details
  have htags := h.tags.eq h'.tags
  cases e
  cases e'
  simp_all

theorem Draft.describes : Draft.form.Describes {} Draft.event Event.ReadFrom where
  empty f := by cases f <;> rfl
  gathered := readFrom_of_gathers
  settable := settable
  unique := Event.ReadFrom.unique

/-- **An event is read** from members of different names if each of its fields is. -/
theorem Event.ofMembers_eq_ok_iff {m : KeyedMap Json} {e : Event} :
    Event.ofMembers m = .ok e ↔ e.ReadFrom m.get? := by
  have hiff : (∃ d, Json.Gathers Draft.form.Member {} m.toList d ∧ d.event = e) ↔ _ :=
    Draft.describes.exists_gathers_iff Draft.lawful_form
  have honce : ∀ name ∈ Draft.form.labels, Json.AtMost 1 m.toList name := fun name _ =>
    Json.atMost_of_nodup (KeyedMap.nodup_of_ascending m.ascending) name
  have hother : ∀ x ∈ m.toList, x.1 ∉ Draft.form.labels → Draft.form.other x.2 :=
    fun _ _ _ => trivial
  have hrun : Event.ofMembers m = .ok e ↔
      ∃ d, Json.Gathers Draft.form.Member {} m.toList d ∧ d.event = e := by
    simp only [← Draft.setMembers_eq_ok_iff, Event.ofMembers]
    cases Draft.setMembers {} m.toList <;> simp [Except.map]
  rw [hrun, hiff]
  exact ⟨fun h => h.2.2, fun h => ⟨honce, hother, h⟩⟩

namespace Payload

open Json (IsText Holds IsString IsOptional IsWord IsLabels lastOf settled)

/-- **A report in the relay's own shape**: each of its nine members is of its kind, `null` or left
out. -/
structure NativeOf (ms : Json.Members) (s : CachedState) : Prop where
  entity : Holds IsString "" (lastOf ms "entity") s.event.entity
  check : Holds IsString "" (lastOf ms "check") s.event.check
  type : Holds IsString "" (lastOf ms "type") s.event.type
  state : Holds IsString "" (lastOf ms "state") s.event.state
  summary : Holds IsString "" (lastOf ms "summary") s.event.summary
  time : Holds IsWord 0 (lastOf ms "time") s.event.time
  details : Holds IsOptional none (lastOf ms "details") s.event.details
  tags : Holds IsLabels none (lastOf ms "tags") s.event.tags
  ttl : Holds IsWord 0 (lastOf ms "ttl") s.ttl

/-- A member of a body is read as what it holds. -/
theorem given_settled_iff {α : Type} {R P : α → Json → Prop} {default a : α} {ms : Json.Members}
    {name : String} (hP : ∀ v, P a (Json.arranged v) ↔ P a v)
    (hread : ∀ v, lastOf ms name = some v → (R a (Json.arranged v) ↔
      Json.OrNull P default a (Json.arranged v))) :
    Json.Given R default ((settled ms).get? name) a ↔ Holds P default (lastOf ms name) a := by
  rw [Json.get?_settled, ← Json.holds_arranged_iff hP]
  cases hv : lastOf ms name with
  | none => exact Iff.rfl
  | some v => exact hread v hv

section

variable {ms : Json.Members} {name : String}

theorem given_text_iff {s : String} :
    Json.Given Json.ReadText "" ((settled ms).get? name) s ↔
      Holds IsString "" (lastOf ms name) s :=
  given_settled_iff (Json.isString_arranged s) fun _ _ =>
    Json.exists_asNullable_iff (fun o => o.getD "") Json.asString_iff

theorem given_optional_iff {s : Option String} :
    Json.Given Json.ReadOptional none ((settled ms).get? name) s ↔
      Holds IsOptional none (lastOf ms name) s :=
  given_settled_iff (Json.isOptional_arranged s) fun _ _ =>
    Json.exists_asNullable_iff (fun o => o) Json.asOptional_iff

theorem given_word_iff {raw : Bytes} (htext : IsText (.object ms) raw) {w : Int64} :
    Json.Given Json.ReadWord 0 ((settled ms).get? name) w ↔
      Holds IsWord 0 (lastOf ms name) w := by
  refine given_settled_iff (Json.isWord_arranged w) fun v hv => ?_
  -- no text spells a number below the least word, so only the greatest has to be looked at
  have hwhole : ∀ n, Json.arranged v = .integer n → Json.IsWhole n := by
    intro n hn
    have hmem := Json.mem_of_lastOf hv
    cases v <;> cases hn
    exact Json.isWhole_of_mem htext hmem
  exact Json.exists_asNullable_iff (fun o => Int64.ofInt (o.getD 0)) (Json.asWord_iff hwhole)

theorem given_labels_iff {tags : Option (KeyedMap String)} :
    Json.Given Json.ReadLabels none ((settled ms).get? name) tags ↔
      Holds IsLabels none (lastOf ms name) tags := by
  refine given_settled_iff (Json.isLabels_arranged tags) fun v _ => ?_
  refine Json.exists_asNullable_iff (fun o => o.map KeyedMap.ofList) ?_
  cases v with
  | object ms' => exact Json.asLabels_iff (KeyedMap.ofList ms').ascending
  | _ => simp [Json.arranged, Json.asTexts, IsLabels]

end

/-- **Recognising** a report finds what is written there, and nothing if a member is of another
kind. -/
theorem ofMembers_eq_ok_iff {raw : Bytes} {ms : Json.Members} (htext : IsText (.object ms) raw)
    {s : CachedState} : CachedState.ofMembers (settled ms) = .ok s ↔ NativeOf ms s := by
  -- the time to live stands beside the fields of the event
  have httl : ∀ {w : Int64}, CachedState.ttlOf (settled ms) = .ok w ↔
      Holds IsWord 0 (lastOf ms "ttl") w := by
    intro w
    rw [← given_word_iff htext, CachedState.ttlOf, CachedState.ttlName]
    cases (settled ms).get? "ttl" with
    | none => simp [Json.Given, eq_comm]
    | some v =>
      simp only [Json.Given, Json.ReadWord]
      cases Json.asNullable Json.asInt64 v <;> simp [Except.map, eq_comm]
  have hevent : ∀ {e : Event}, (∃ d, Draft.setMembers {} (settled ms).toList = .ok d ∧
      d.event = e) ↔ e.ReadFrom (settled ms).get? := by
    intro e
    rw [← Event.ofMembers_eq_ok_iff, Event.ofMembers]
    cases Draft.setMembers {} (settled ms).toList <;> simp [Except.map]
  constructor
  · intro h
    obtain ⟨w, hw, h⟩ := bind_eq_ok.1 h
    obtain ⟨d, hd, h⟩ := bind_eq_ok.1 h
    cases h
    have hread := hevent.1 ⟨d, hd, rfl⟩
    exact {
      entity := given_text_iff.1 hread.entity
      check := given_text_iff.1 hread.check
      type := given_text_iff.1 hread.type
      state := given_text_iff.1 hread.state
      summary := given_text_iff.1 hread.summary
      time := (given_word_iff htext).1 hread.time
      details := given_optional_iff.1 hread.details
      tags := given_labels_iff.1 hread.tags
      ttl := httl.1 hw }
  · intro h
    have hread : s.event.ReadFrom (settled ms).get? := {
      entity := given_text_iff.2 h.entity
      check := given_text_iff.2 h.check
      type := given_text_iff.2 h.type
      state := given_text_iff.2 h.state
      summary := given_text_iff.2 h.summary
      time := (given_word_iff htext).2 h.time
      details := given_optional_iff.2 h.details
      tags := given_labels_iff.2 h.tags }
    obtain ⟨d, hd, he⟩ := hevent.2 hread
    refine bind_eq_ok.2 ⟨s.ttl, httl.2 h.ttl, bind_eq_ok.2 ⟨d, hd, ?_⟩⟩
    rw [he]
    rfl

/-! ### Alerts -/

/-- A member that has to be a text if it is there. -/
theorem textAt?_eq_some_iff {ms : Json.Members} {name s : String} :
    textAt? (settled ms) name = some s ↔ Holds IsString "" (lastOf ms name) s := by
  rw [textAt?, Json.get?_settled]
  cases lastOf ms name with
  | none => simp [Json.Given, eq_comm]
  | some v => cases v <;> simp [Json.Given, Json.OrNull, IsString, Json.arranged, eq_comm]

/-- **The members of an alert**: each of the six is a text, `null` or left out. -/
structure AlertOf (ms : Json.Members) (a : Alert) : Prop where
  policyName : Holds IsString "" (lastOf ms "policy_name") a.policyName
  conditionName : Holds IsString "" (lastOf ms "condition_name") a.conditionName
  currentState : Holds IsString "" (lastOf ms "current_state") a.currentState
  details : Holds IsString "" (lastOf ms "details") a.details
  acknowledgeUrl : Holds IsString "" (lastOf ms "incident_acknowledge_url") a.acknowledgeUrl
  incidentUrl : Holds IsString "" (lastOf ms "incident_url") a.incidentUrl

theorem Alert.ofMembers?_eq_some_iff {ms : Json.Members} {a : Alert} :
    Alert.ofMembers? (settled ms) = some a ↔ AlertOf ms a := by
  simp only [Alert.ofMembers?, Option.bind_eq_bind, Option.bind_eq_some_iff, textAt?_eq_some_iff,
    Option.pure_def, Option.some.injEq]
  constructor
  · rintro ⟨_, hpolicy, _, hcondition, _, hstate, _, hdetails, _, hacknowledge, _, hincident, rfl⟩
    exact ⟨hpolicy, hcondition, hstate, hdetails, hacknowledge, hincident⟩
  · rintro ⟨hpolicy, hcondition, hstate, hdetails, hacknowledge, hincident⟩
    exact ⟨_, hpolicy, _, hcondition, _, hstate, _, hdetails, _, hacknowledge, _, hincident, rfl⟩

/-! ### Envelopes -/

/-- **The members of an envelope**: each of the three is a text, `null` or left out. -/
structure EnvelopeOf (ms : Json.Members) (e : Envelope) : Prop where
  message : Holds IsString "" (lastOf ms "Message") e.message
  signingCertUrl : Holds IsString "" (lastOf ms "SigningCertURL") e.signingCertUrl
  subscribeUrl : Holds IsString "" (lastOf ms "SubscribeURL") e.subscribeUrl

theorem Envelope.ofMembers?_eq_some_iff {ms : Json.Members} {e : Envelope} :
    Envelope.ofMembers? (settled ms) = some e ↔ EnvelopeOf ms e := by
  simp only [Envelope.ofMembers?, Option.bind_eq_bind, Option.bind_eq_some_iff,
    textAt?_eq_some_iff, Option.pure_def, Option.some.injEq]
  constructor
  · rintro ⟨_, hmessage, _, hcert, _, hsubscribe, rfl⟩
    exact ⟨hmessage, hcert, hsubscribe⟩
  · rintro ⟨hmessage, hcert, hsubscribe⟩
    exact ⟨_, hmessage, _, hcert, _, hsubscribe, rfl⟩

/-! ### Names of entities -/

/-- **A body names an entity** if the member is there and neither `null` nor empty. -/
def NamesEntity (ms : Json.Members) : Prop :=
  ∃ v, lastOf ms "entity" = some v ∧ v ≠ .null ∧ v ≠ .string ""

theorem isNative_iff {ms : Json.Members} : isNative (settled ms) = true ↔ NamesEntity ms := by
  rw [isNative, Json.get?_settled, NamesEntity]
  cases lastOf ms "entity" with
  | none => simp
  | some v => cases v <;> simp [Json.arranged]

end Payload

end AlertRelay
