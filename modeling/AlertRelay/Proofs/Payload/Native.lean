/-
AlertRelay/Proofs/Payload/Native.lean

Cached states that come back as they were sent.

A relay that posts its cached states to another one writes them as objects and the other reads
them as bodies.  Between the two the members are put in order, so the reader meets them as they
are listed by name (`listed`) and not as they were written; since no name is given twice, nothing
else happens to them (`settled_members`).

The members of a state therefore always describe the state (`ofMembers_settled`), whatever its
texts and numbers are.  What can change it is the rest of the way: a body that names no entity is
not taken for a state at all, and an accepted state has its defaults filled in.  Both leave a
state alone exactly if it has an entity, a category, a time, a window and the name of a relay
(`normalize_json_iff`).
-/
import AlertRelay.Payload
import AlertRelay.Proofs.Event.Json

namespace AlertRelay

/-! ### Members in order -/

namespace Event

variable {e : Event}

/-- The names of members are among those of their fields, in the same order. -/
theorem names_membersOf_sublist (fs : List EventField) :
    ((e.membersOf fs).map (·.1)).Sublist (fs.map EventField.name) := by
  induction fs with
  | nil => exact List.Sublist.slnil
  | cons f fs ih =>
    cases hv : e.value? f with
    | none =>
      rw [membersOf_cons_of_none hv]
      exact ih.cons _
    | some v =>
      rw [membersOf_cons_of_some hv]
      exact ih.cons_cons _

theorem membersOf_append (fs gs : List EventField) :
    e.membersOf (fs ++ gs) = e.membersOf fs ++ e.membersOf gs :=
  List.filterMap_append

theorem membersOf_perm {fs gs : List EventField} (h : fs.Perm gs) :
    (e.membersOf fs).Perm (e.membersOf gs) :=
  h.filterMap _

theorem mem_membersOf {fs : List EventField} {m : String × Json} :
    m ∈ e.membersOf fs ↔ ∃ f ∈ fs, e.value? f = some m.2 ∧ f.name = m.1 := by
  simp only [membersOf, List.mem_filterMap, Option.map_eq_some_iff, Prod.ext_iff]
  constructor
  · rintro ⟨f, hf, v, hv, hname, rfl⟩
    exact ⟨f, hf, hv, hname⟩
  · rintro ⟨f, hf, hv, hname⟩
    exact ⟨f, hf, m.2, hv, hname, rfl⟩

/-- Labels are written in order, and the other values have no order. -/
theorem arranged_value {f : EventField} {v : Json} (hv : e.value? f = some v) :
    v.arranged = v := by
  obtain ⟨-, rfl⟩ | ⟨tags, -, -, rfl⟩ | ⟨t, -, -, rfl⟩ := value_cases hv
  · rfl
  · have hlist := KeyedMap.ofList_toList (tags.map Json.string)
    show Json.object (KeyedMap.ofList (tags.map Json.string).toList).toList = tagsJson tags
    rw [hlist]
    rfl
  · rfl

/-- The labels are the only brackets in an event. -/
theorem plain_value {f : EventField} {v : Json} (hv : e.value? f = some v) (depth : Nat) :
    Json.Plain (depth + 1) v := by
  obtain ⟨-, rfl⟩ | ⟨tags, -, -, rfl⟩ | ⟨t, -, -, rfl⟩ := value_cases hv
  · exact .integer _ (Json.isWhole_toInt e.time)
  · refine .object fun m hm => ?_
    obtain ⟨t, -, rfl⟩ := List.mem_map.1 hm
    exact .string depth t.2
  · exact .string _ t

end Event

namespace CachedState

variable (s : CachedState)

/-- The members of a state, as they are written. -/
def members : Json.Members :=
  s.event.members ++ [(ttlName, .integer s.ttl.toInt)]

/-- The fields whose names come before that of the window. -/
def fieldsBeforeTtl : List EventField :=
  [.check, .details, .entity, .state, .summary, .tags, .time]

/-- The members of a state, by ascending name. -/
def listed : Json.Members :=
  s.event.membersOf fieldsBeforeTtl ++
    (ttlName, .integer s.ttl.toInt) :: s.event.membersOf [.type]

theorem listed_ascending : Ascending s.listed := by
  have hnames : (s.listed.map (·.1)).Sublist
      (fieldsBeforeTtl.map EventField.name ++ ttlName :: [EventField.type.name]) := by
    rw [listed, List.map_append, List.map_cons]
    exact (Event.names_membersOf_sublist _).append
      ((Event.names_membersOf_sublist [.type]).cons_cons _)
  have hall : (fieldsBeforeTtl.map EventField.name ++ ttlName :: [EventField.type.name]).Pairwise
      fun a b => compare a b = .lt := by
    decide
  exact List.pairwise_map.1 (hall.sublist hnames)

theorem listed_perm : s.listed.Perm s.members := by
  have horder : (fieldsBeforeTtl ++ [EventField.type]).Perm EventField.order := by decide
  have hfields := Event.membersOf_perm (e := s.event) horder
  rw [Event.membersOf_append, ← Event.members_eq] at hfields
  exact List.perm_middle.trans ((hfields.cons _).trans (List.perm_append_singleton _ _).symm)

/-- A member of a state holds a value of its event, or the window. -/
theorem value_of_mem {m : String × Json} (hm : m ∈ s.members) :
    (∃ f, s.event.value? f = some m.2) ∨ m.2 = .integer s.ttl.toInt := by
  rcases List.mem_append.1 hm with hm | hm
  · rw [Event.members_eq] at hm
    obtain ⟨f, -, hv, -⟩ := Event.mem_membersOf.1 hm
    exact .inl ⟨f, hv⟩
  · rw [List.mem_singleton.1 hm]
    exact .inr rfl

/-- The values of a state have nothing to arrange. -/
theorem arranged_of_mem {m : String × Json} (hm : m ∈ s.listed) : m.2.arranged = m.2 := by
  rcases s.value_of_mem (s.listed_perm.mem_iff.1 hm) with ⟨f, hv⟩ | hv
  · exact Event.arranged_value hv
  · rw [hv]
    rfl

/-- **In order**: the members of a state are listed by name, and nothing else happens to them. -/
theorem settled_members : (Json.settled s.members).toList = s.listed := by
  show (KeyedMap.ofList s.members).toList.map (fun m => (m.1, m.2.arranged)) = s.listed
  rw [KeyedMap.toList_ofList s.listed_ascending s.listed_perm]
  -- arranging the values changes none of them
  conv_rhs => rw [← List.map_id s.listed]
  refine List.map_congr_left fun m hm => ?_
  rw [s.arranged_of_mem hm]
  rfl

/-! ### There and back -/

/-- What stands in a body that spells a state. -/
theorem ofBody_json : Payload.ofBody (utf8 s.json) = .ok (Json.settled s.members) := by
  have hplain : ∀ m ∈ s.members, Json.Plain 126 m.2 := by
    intro m hm
    rcases s.value_of_mem hm with ⟨f, hv⟩ | hv
    · exact Event.plain_value hv 125
    · rw [hv]
      exact .integer _ (Json.isWhole_toInt s.ttl)
  have hread : Json.members (Json.value 126) (spelled (Json.memberChars s.members) ++ []) =
      .ok (s.members, []) :=
    Json.members_memberChars (fun m hm rest hrest => Json.value_chars (hplain m hm) hrest) []
  have htext : utf8 s.json = 0x7b :: spelled (Json.memberChars s.members) :=
    Json.utf8_write_object s.members
  rw [List.append_nil] at hread
  rw [htext]
  simp only [Payload.ofBody, Json.readWhole, Payload.readMembers,
    Json.skipBlank_cons (b := 0x7b) (by decide), Json.maxDepth, hread]
  rfl

/-- **The members of a state** describe the state. -/
theorem ofMembers_settled : ofMembers (Json.settled s.members) = .ok s := by
  have hwindow : (Json.settled s.members).get? ttlName = some (.integer s.ttl.toInt) := by
    rw [← KeyedMap.mem_toList_iff, settled_members]
    exact List.mem_append_right _ List.mem_cons_self
  have httl : ttlOf (Json.settled s.members) = .ok s.ttl := by
    simp [ttlOf, hwindow, Json.asNullable, Json.asInt64, Json.int64Of_toInt, Except.map]
  -- the window is no field of the event
  have hskip : EventField.ofName? ttlName = none := by decide
  have hset : Draft.setMembers {} s.listed =
      .ok (s.event.draft (.type :: fieldsBeforeTtl.reverse)) := by
    show (s.event.draft []).setMembers s.listed = _
    rw [listed, Event.setMembers_membersOf (by decide), Draft.setMembers, hskip]
    have hlast := Event.setMembers_membersOf (e := s.event)
      (show ([EventField.type].reverse ++ fieldsBeforeTtl.reverse).Nodup by decide) []
    rw [List.append_nil] at hlast ⊢
    exact hlast
  have hevent : (s.event.draft (.type :: fieldsBeforeTtl.reverse)).event = s.event :=
    Event.event_draft fun f => by cases f <;> decide
  simp [ofMembers, httl, settled_members, hset, hevent, bind, Except.bind, pure, Except.pure]

/-- A state's body is taken for a state if it names an entity. -/
theorem isNative_settled :
    Payload.isNative (Json.settled s.members) = (s.event.entity != "") := by
  have hentity : (Json.settled s.members).get? "entity" = some (.string s.event.entity) := by
    rw [← KeyedMap.mem_toList_iff, settled_members]
    refine List.mem_append_left _ (Event.mem_membersOf.2 ⟨.entity, by decide, rfl, rfl⟩)
  simp [Payload.isNative, hentity]

/-! ### Defaults -/

/-- Labels are left alone exactly if they name a relay. -/
theorem defaultTags_eq_iff {tags : Option (KeyedMap String)} :
    some (defaultTags tags) = tags ↔
      ∃ labels name, tags = some labels ∧ labels.get? fromBroker = some name ∧ name ≠ "" := by
  constructor
  · intro h
    refine ⟨defaultTags tags, ((defaultTags tags).get? fromBroker).getD "", h.symm, ?_⟩
    cases tags with
    | none => cases h
    | some labels =>
      have h := Option.some.inj h
      rw [h]
      by_cases hname : (labels.get? fromBroker).getD "" = ""
      · -- then the name of the relay was put in, and the labels had one after all
        have hinsert : labels.insert fromBroker brokerName = labels := by
          simpa [defaultTags, hname] using h
        rw [← hinsert, KeyedMap.get?_insert, if_pos rfl]
        exact ⟨rfl, by decide⟩
      · cases hget : labels.get? fromBroker with
        | none => simp [hget] at hname
        | some name => simpa [hget] using hname
  · rintro ⟨labels, name, rfl, hget, hname⟩
    simp [defaultTags, hget, hname]

/-- **A state that lacks nothing** is the one that its defaults leave alone at every time. -/
theorem withDefaults_eq_iff :
    (∀ now, s.withDefaults now = s) ↔
      s.event.type ≠ "" ∧ s.event.time ≠ 0 ∧ s.ttl ≠ 0 ∧
        ∃ labels name, s.event.tags = some labels ∧ labels.get? fromBroker = some name ∧
          name ≠ "" := by
  rw [← defaultTags_eq_iff]
  constructor
  · intro h
    -- one time that is not zero shows all four defaults
    have htype := congrArg (fun s => s.event.type) (h 1)
    have htime := congrArg (fun s => s.event.time) (h 1)
    have httl := congrArg CachedState.ttl (h 1)
    have htags := congrArg (fun s => s.event.tags) (h 1)
    refine ⟨fun he => ?_, fun he => ?_, fun he => ?_, htags⟩
    · simp [withDefaults, he, serviceType] at htype
    · simp [withDefaults, he] at htime
    · simp [withDefaults, he, defaultTtl] at httl
  · rintro ⟨htype, htime, httl, htags⟩ now
    obtain ⟨⟨_, _, _, _, _, _, _, _⟩, _⟩ := s
    simp_all [withDefaults]

end CachedState

namespace Payload

/-- Nothing but a body that names an entity is taken for a state in the relay's own shape. -/
theorem isNative_of_interpret {members : KeyedMap Json} {s : CachedState}
    (h : interpret members = .ok (.state s .native)) : isNative members = true := by
  unfold interpret at h
  split at h
  · assumption
  · split at h
    · simp at h
    · split at h
      · unfold ofEnvelope at h
        split at h
        · split at h <;> simp at h
        · simp at h
      · simp at h

end Payload

/-- What a state's body means, if the state has an entity. -/
theorem normalize_json (s : CachedState) (now : Int64) (hentity : s.event.entity ≠ "") :
    normalize (utf8 s.json) now = .ok (.state (s.withDefaults now) .native) := by
  have hnative : Payload.isNative (Json.settled s.members) = true := by
    rw [s.isNative_settled, bne_iff_ne]
    exact hentity
  simp [normalize, s.ofBody_json, Except.mapError, Payload.interpret, hnative, s.ofMembers_settled,
    Normalized.withDefaults, bind, Except.bind, pure, Except.pure]

/-- A state without an entity does not come back as a state in the relay's own shape. -/
theorem entity_ne_of_normalize {s s' : CachedState} {now : Int64}
    (h : normalize (utf8 s.json) now = .ok (.state s' .native)) : s.event.entity ≠ "" := by
  rw [← bne_iff_ne, ← s.isNative_settled]
  cases hmeaning : Payload.interpret (Json.settled s.members) with
  | error e =>
    simp [normalize, s.ofBody_json, Except.mapError, hmeaning, bind, Except.bind] at h
  | ok n =>
    simp only [normalize, s.ofBody_json, Except.mapError, hmeaning, bind, Except.bind, pure,
      Except.pure, Except.ok.injEq] at h
    cases n with
    | confirmation url => cases h
    | state s₀ shape =>
      obtain ⟨-, rfl⟩ := Normalized.state.inj h
      exact Payload.isNative_of_interpret hmeaning

/-- **There and back**: a cached state comes back as it was, whenever it arrives, exactly if it has
an entity, a category, a time, a window and the name of a relay. -/
theorem normalize_json_iff (s : CachedState) :
    (∀ now, normalize (utf8 s.json) now = .ok (.state s .native)) ↔
      s.event.entity ≠ "" ∧ s.event.type ≠ "" ∧ s.event.time ≠ 0 ∧ s.ttl ≠ 0 ∧
        ∃ labels name, s.event.tags = some labels ∧ labels.get? fromBroker = some name ∧
          name ≠ "" := by
  constructor
  · intro h
    have hentity := entity_ne_of_normalize (h 0)
    refine ⟨hentity, s.withDefaults_eq_iff.1 fun now => ?_⟩
    have hboth := (normalize_json s now hentity).symm.trans (h now)
    exact (Normalized.state.inj (Except.ok.inj hboth)).1
  · rintro ⟨hentity, hdefaults⟩ now
    rw [normalize_json s now hentity, s.withDefaults_eq_iff.2 hdefaults now]

end AlertRelay
