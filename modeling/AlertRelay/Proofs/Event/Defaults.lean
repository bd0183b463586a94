/-
AlertRelay/Proofs/Event/Defaults.lean

What every accepted state has.

Four things are filled in when a state is accepted: a time, a category, a window, and among the
labels the name of a relay.  Each of them is left alone where it is there, and the rest of the state
is left alone in any case (`Keeps`).  Afterwards none of them is missing (`Filled`), if only the
clock shows a time that is one, and then there is nothing more to fill in, whatever the clock shows
the next time.

So a state can be written down, read back and completed again as often as one likes: writing and
reading give it back as it is (`parse_json`), and completing it once was enough
(`Filled.withDefaults_eq`).  The events that go out for it are then the same as well, for they are
made of the state and of the time of their tick.
-/
import AlertRelay.Proofs.Payload.Native

namespace AlertRelay

namespace CachedState

variable {s : CachedState} {now : Int64}

/-! ### States that lack nothing -/

/-- A state that has everything that defaults fill in. -/
structure Filled (s : CachedState) : Prop where
  ttl : s.ttl ≠ 0
  time : s.event.time ≠ 0
  type : s.event.type ≠ ""
  relay : ∃ labels name, s.event.tags = some labels ∧ labels.get? fromBroker = some name ∧
    name ≠ ""

/-- Labels name a relay once they have been completed. -/
theorem get?_defaultTags (tags : Option (KeyedMap String)) :
    ∃ name, (defaultTags tags).get? fromBroker = some name ∧ name ≠ "" := by
  unfold defaultTags
  by_cases hname : ((tags.getD ∅).get? fromBroker).getD "" = ""
  · refine ⟨brokerName, ?_, by decide⟩
    simp [hname, KeyedMap.get?_insert]
  · cases hget : (tags.getD ∅).get? fromBroker with
    | none => simp [hget] at hname
    | some name =>
      have hne : name ≠ "" := by simpa [hget] using hname
      exact ⟨name, by simp [hget, hne], hne⟩

/-- **Defaults** leave nothing to be filled in, if the clock shows a time. -/
theorem filled_withDefaults (s : CachedState) (hnow : now ≠ 0) : (s.withDefaults now).Filled where
  ttl := by
    show (if s.ttl = 0 then defaultTtl else s.ttl) ≠ 0
    split_ifs with h
    · decide
    · exact h
  time := by
    show (if s.event.time = 0 then now else s.event.time) ≠ 0
    split_ifs with h
    · exact hnow
    · exact h
  type := by
    show (if s.event.type = "" then serviceType else s.event.type) ≠ ""
    split_ifs with h
    · decide
    · exact h
  relay := by
    obtain ⟨name, hget, hname⟩ := get?_defaultTags s.event.tags
    exact ⟨_, name, rfl, hget, hname⟩

/-- A state that lacks nothing is left alone. -/
theorem Filled.withDefaults_eq (h : s.Filled) (now : Int64) : s.withDefaults now = s :=
  s.withDefaults_eq_iff.2 ⟨h.type, h.time, h.ttl, h.relay⟩ now

/-! ### What is left alone -/

/-- The value of a label. -/
def label? (s : CachedState) (name : String) : Option String :=
  s.event.tags.bind (·.get? name)

/-- A state that says all that another one says.  Only what the other one leaves open can differ:
a category, a time, a window, and the name of the relay. -/
structure Keeps (s t : CachedState) : Prop where
  event : t.event = { s.event with
    type := t.event.type
    time := t.event.time
    tags := t.event.tags }
  type : s.event.type ≠ "" → t.event.type = s.event.type
  time : s.event.time ≠ 0 → t.event.time = s.event.time
  ttl : s.ttl ≠ 0 → t.ttl = s.ttl
  labels : ∀ name, name ≠ fromBroker ∨ (s.label? name).getD "" ≠ "" →
    t.label? name = s.label? name

theorem label?_eq (s : CachedState) (name : String) :
    s.label? name = (s.event.tags.getD ∅).get? name := by
  unfold label?
  cases s.event.tags <;> rfl

/-- A label is left alone if it is not the name of the relay, or if that is there. -/
theorem label?_withDefaults {name : String}
    (h : name ≠ fromBroker ∨ (s.label? name).getD "" ≠ "") (now : Int64) :
    (s.withDefaults now).label? name = s.label? name := by
  rw [label?_eq s] at h ⊢
  show (defaultTags s.event.tags).get? name = _
  unfold defaultTags
  dsimp only
  split_ifs with hmissing
  · rcases h with hne | hthere
    · rw [KeyedMap.get?_insert, if_neg hne]
    · have hne : name ≠ fromBroker := by
        rintro rfl
        exact hthere hmissing
      rw [KeyedMap.get?_insert, if_neg hne]
  · rfl

/-- **Defaults** change nothing that a state says. -/
theorem keeps_withDefaults (s : CachedState) (now : Int64) : s.Keeps (s.withDefaults now) where
  event := rfl
  type h := if_neg h
  time h := if_neg h
  ttl h := if_neg h
  labels _ h := label?_withDefaults h now

/-! ### There and back -/

namespace Gathered

/-- The members of a state are gathered as they are, and the window is taken at the end. -/
theorem readsMembers {ms : Json.Members}
    (hms : ∀ m ∈ ms, m.1 ≠ ttlName ∧ Json.Plain (Json.maxDepth - 1) m.2) (ttl : Int64)
    (done : Json.Members) :
    Json.ReadsMembers readMember { members := done } (ms ++ [(ttlName, .integer ttl.toInt)])
      { members := ms.reverse ++ done, ttl := some ttl } := by
  induction ms generalizing done with
  | nil =>
    refine .cons ?_ (.nil _)
    intro rest hrest
    simp [readMember, Json.colon, Json.skipBlank_cons (b := 0x3a) (by decide),
      Json.nullable_readInt64 ttl hrest, bind, Except.bind, pure, Except.pure]
  | cons m ms ih =>
    obtain ⟨hname, hplain⟩ := hms m List.mem_cons_self
    have htail := ih (fun x hx => hms x (List.mem_cons_of_mem _ hx)) (m :: done)
    rw [List.reverse_cons, List.append_assoc, List.singleton_append]
    refine .cons ?_ htail
    intro rest hrest
    simp [readMember, hname, Json.colon, Json.skipBlank_cons (b := 0x3a) (by decide),
      Json.value_chars hplain hrest, bind, Except.bind, pure, Except.pure]

end Gathered

/-- **The text of a state** is read back, to the state and to nothing else. -/
theorem parse_json (s : CachedState) : parse (utf8 s.json) = .ok s := by
  have hmembers : ∀ m ∈ s.event.members,
      m.1 ≠ ttlName ∧ Json.Plain (Json.maxDepth - 1) m.2 := by
    intro m hm
    rw [Event.members_eq] at hm
    obtain ⟨f, -, hv, hname⟩ := Event.mem_membersOf.1 hm
    refine ⟨?_, Event.plain_value hv 125⟩
    rw [← hname]
    cases f <;> decide
  have hgather := Json.fields_memberChars (Gathered.readsMembers hmembers s.ttl []) []
  -- what was gathered are the fields of the event, each of them once
  have hset : Draft.setMembers {} s.event.members =
      .ok (s.event.draft EventField.order.reverse) := by
    have h : (s.event.draft []).setMembers (s.event.membersOf EventField.order ++ []) =
        (s.event.draft (EventField.order.reverse ++ [])).setMembers [] :=
      Event.setMembers_membersOf (by decide) []
    rw [List.append_nil, List.append_nil, ← Event.members_eq] at h
    exact h
  have hevent : (s.event.draft EventField.order.reverse).event = s.event :=
    Event.event_draft fun f => by cases f <;> decide
  have htext : utf8 s.json = 0x7b :: spelled (Json.memberChars s.members) :=
    Json.utf8_write_object s.members
  rw [List.append_nil] at hgather
  rw [htext]
  simp only [parse, Json.readWhole, read, Json.skipBlank_cons (b := 0x7b) (by decide), members,
    hgather, List.append_nil, List.reverse_reverse, hset, hevent, bind, Except.bind, pure,
    Except.pure]
  rfl

/-! ### Once is enough -/

/-- What becomes of a state that is completed. -/
structure Completes (s : CachedState) (now : Int64) : Prop where
  keeps : s.Keeps (s.withDefaults now)
  /-- Once is enough, if the clock shows a time. -/
  again : now ≠ 0 → ∀ now', (s.withDefaults now).withDefaults now' = s.withDefaults now
  /-- It is read back from its text, and is then complete. -/
  text : now ≠ 0 → ∀ now', (parse (utf8 (s.withDefaults now).json)).map (·.withDefaults now') =
    .ok (s.withDefaults now)
  /-- So it is from the members of an object that has been read already. -/
  members : now ≠ 0 → ∀ now', ∃ members,
    Payload.ofBody (utf8 (s.withDefaults now).json) = .ok members ∧
      (ofMembers members).map (·.withDefaults now') = .ok (s.withDefaults now)
  /-- At every tick the same goes out for it. -/
  outgoing : now ≠ 0 → ∀ now' tick,
    (parse (utf8 (s.withDefaults now).json)).map (fun t => (t.withDefaults now').outgoing tick) =
      .ok ((s.withDefaults now).outgoing tick)

/-- **Every state** is completed once and for all. -/
theorem completes (s : CachedState) (now : Int64) : s.Completes now where
  keeps := s.keeps_withDefaults now
  again hnow now' := (s.filled_withDefaults hnow).withDefaults_eq now'
  text hnow now' := by
    rw [parse_json, Except.map, (s.filled_withDefaults hnow).withDefaults_eq now']
  members hnow now' := by
    refine ⟨_, ofBody_json _, ?_⟩
    rw [ofMembers_settled, Except.map, (s.filled_withDefaults hnow).withDefaults_eq now']
  outgoing hnow now' tick := by
    rw [parse_json, Except.map, (s.filled_withDefaults hnow).withDefaults_eq now']

/-- A state that leaves everything open, and names its relay by an empty text. -/
def unfinished : CachedState :=
  ⟨{ entity := "web1", check := "ping", state := "ok", summary := "fine",
     tags := some (KeyedMap.ofList [(fromBroker, ""), ("team", "ops")]) }, 0⟩

theorem completes_unfinished :
    unfinished.withDefaults 1700000000 =
        ⟨{ unfinished.event with
            type := "service", time := 1700000000,
            tags := some (KeyedMap.ofList [("team", "ops"), (fromBroker, "httpbroker")]) }, 300⟩ ∧
      (unfinished.withDefaults 1700000000).label? "team" = some "ops" ∧
      (parse (utf8 (unfinished.withDefaults 1700000000).json)).map (·.withDefaults 5) =
        .ok (unfinished.withDefaults 1700000000) := by
  have h := unfinished.completes 1700000000
  exact ⟨by decide, h.keeps.labels "team" (.inl (by decide)), h.text (by decide) 5⟩

end CachedState

end AlertRelay
