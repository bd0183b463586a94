/-
AlertRelay/Proofs/Server/Replay.lean

A relay that is told what another one has shown.

Every state that is posted has its defaults filled in before it is cached (`Filled`), and nothing
but what was posted is ever cached, so all that a relay shows lacks nothing
(`filled_of_get?_replay`).  Such a state is left alone by the defaults.  Its text therefore means
the state itself, wherever and whenever it is posted, if only it names an entity and is no longer
than a body may be.

So whoever posts all texts of a dump to an empty relay, in any order, puts the same states under the
same keys; and a map is listed by its keys, not by the order in which they came (`replays_dump`).
The owner may take its time with each post, as long as it takes something while a post waits.
-/
import AlertRelay.Proofs.Event.Defaults
import AlertRelay.Proofs.Server.Post
import AlertRelay.Proofs.Tick.Traffic
import Mathlib.Data.List.Perm.Basic

namespace AlertRelay

/-! ### States that are posted -/

/-- A state that some posted body means, at a time that is not zero. -/
def CachedState.IsPosted (s : CachedState) : Prop :=
  ∃ (b : Body) (now : Int64) (shape : Shape), now ≠ 0 ∧ b.Means now (.state s shape)

/-- What a body means has its defaults filled in. -/
theorem eq_withDefaults_of_normalize {raw : Bytes} {now : Int64} {s : CachedState} {shape : Shape}
    (h : normalize raw now = .ok (.state s shape)) :
    ∃ s₀ : CachedState, s = s₀.withDefaults now := by
  unfold normalize at h
  cases hbody : (Payload.ofBody raw).mapError Refusal.json with
  | error r => simp [hbody, bind, Except.bind] at h
  | ok members =>
    cases hmeaning : Payload.interpret members with
    | error r => simp [hbody, hmeaning, bind, Except.bind] at h
    | ok n =>
      simp only [hbody, hmeaning, bind, Except.bind, pure, Except.pure, Except.ok.injEq] at h
      cases n with
      | confirmation url => cases h
      | state s₀ shape₀ => exact ⟨s₀, (Normalized.state.inj h).1.symm⟩

theorem CachedState.IsPosted.filled {s : CachedState} (h : s.IsPosted) : s.Filled := by
  obtain ⟨b, now, shape, hnow, raw, -, hmeaning⟩ := h
  obtain ⟨s₀, rfl⟩ := eq_withDefaults_of_normalize hmeaning
  exact s₀.filled_withDefaults hnow

/-! ### Caches that are built by posts -/

namespace Traffic

/-- A move adds at most its own state to the states that have entered. -/
theorem mem_entered_act {v : Traffic} {move : Move} {s : CachedState}
    (h : .upsert s ∈ (v.act move).record.entered) :
    .upsert s ∈ v.record.entered ∨ move = .upsert s := by
  have hmoved := v.moved move
  generalize v.act move = w at hmoved h
  cases hmoved with
  | submits s' store offer =>
    rcases List.mem_append.1 h with h | h
    · exact .inl h
    · obtain rfl := Command.upsert.inj (List.mem_singleton.1 h)
      exact .inr rfl
  | looks store offer => exact .inl (by simpa [Record.enter] using h)
  -- a tick adds questions and tombstones
  | asks store stage offer => exact .inl (by simpa [Record.ask] using h)
  | drops key rest store stage offer => exact .inl (by simpa [Record.drop] using h)
  | _ => exact .inl h

/-- **Every state** that has entered was offered by somebody. -/
theorem mem_moves_of_mem_entered (i : Intake) (queue : Queue) (delivery : Delivery)
    {moves : List Move} {s : CachedState}
    (h : .upsert s ∈ ((ofIntake i queue delivery).run moves).record.entered) :
    Move.upsert s ∈ moves := by
  induction moves using List.reverseRecOn with
  | nil => cases h
  | append_singleton moves move ih =>
    rw [run, List.foldl_append] at h
    rcases mem_entered_act h with h | rfl
    · exact List.mem_append_left _ (ih h)
    · simp

variable {i : Intake} {queue : Queue} {delivery : Delivery} {moves : List Move}

/-- **Histories of posts** lead to filled states under their own keys. -/
theorem filled_of_get?_replay (hposted : ∀ s, Move.upsert s ∈ moves → s.IsPosted) {n : Nat}
    {key : String} {s : CachedState}
    (hs : (replay (((ofIntake i queue delivery).run moves).record.entered.take n)).get? key =
      some s) : s.key = key ∧ s.Filled := by
  obtain ⟨hkey, j, hj⟩ := (get?_replay_eq_some_iff _ _ _).1 hs
  have hentered : .upsert s ∈ ((ofIntake i queue delivery).run moves).record.entered :=
    List.mem_of_mem_take (List.mem_of_getElem? hj.upsert)
  exact ⟨hkey, (hposted s (mem_moves_of_mem_entered i queue delivery hentered)).filled⟩

end Traffic

/-! ### Asking an owner at work -/

namespace Store

variable {s : Store}

/-- **A question** to an owner at work, which takes something while it waits, is answered with what
is due. -/
theorem Ready.answer_snapshot {waits : Nat} (h : s.Ready) (hwaits : 0 < waits) :
    (s.snapshot (List.replicate waits .take)).1 = .ended (.ok s.due) := by
  have hrunning : ∀ k, (s.run ((List.replicate waits .take).take k)).owner = .running := by
    intro k
    rw [run_take_replicate]
    exact (h.takeMany _).running
  rcases s.snapshot_of_running _ (snapshot_owner hrunning) with ⟨k, -, hanswer⟩ | ⟨-, hfull⟩
  · rw [hanswer, run_take_replicate, due_takeMany]
  · have hfirst := hfull 1
    rw [run_take_replicate, Nat.min_eq_left hwaits] at hfirst
    exact absurd hfirst (Nat.not_le.2 h.room)

theorem Ready.dump_of_get {path target : String} {n : Network} {now : Int64} {waits : Nat}
    {b : Body} (h : s.Ready) (hwaits : 0 < waits) (hat : Route.isAt path target = true)
    (hhealth : Route.isAt healthPath target = false) :
    (s.answer path n now (List.replicate waits .take)
      { method := "GET", target, body := b }).response = some (.dump s.due) := by
  rw [answer_get hat hhealth]
  show Response.ofStates (s.snapshot _).1 = _
  rw [h.answer_snapshot hwaits]
  rfl

/-! ### Posting a text -/

/-- A state whose text means the state itself, and can be posted. -/
structure Replayable (s : CachedState) : Prop where
  filled : s.Filled
  entity : s.event.entity ≠ ""
  short : (utf8 s.json).length ≤ Body.limit

/-- **The text of such a state**, in whatever chunks and at whatever time, means the state. -/
theorem Replayable.means {state : CachedState} (h : Replayable state) {chunks : List Bytes}
    (hchunks : chunks.flatten = utf8 state.json) (now : Int64) :
    Body.Means { chunks } now (.state state .native) := by
  refine ⟨utf8 state.json, ?_, ?_⟩
  · rw [Body.read_of_le rfl (by rw [hchunks]; exact h.short), hchunks]
  · exact (normalize_json_iff state).2
      ⟨h.entity, h.filled.type, h.filled.time, h.filled.ttl, h.filled.relay⟩ now

/-- A text that is posted. -/
structure Posting where
  text : String
  target : String
  chunks : List Bytes
  network : Network
  now : Int64
  /-- How many commands the owner takes while there is no room for it. -/
  waits : Nat
  /-- How many it takes afterwards. -/
  takes : Nat

/-- A posting of its text to a path, for whose end the owner does something. -/
structure Posting.Fits (path : String) (p : Posting) : Prop where
  isAt : Route.isAt path p.target = true
  chunks : p.chunks.flatten = utf8 p.text
  waits : 0 < p.waits

/-- How a posting is answered. -/
def Posting.answer (path : String) (s : Store) (p : Posting) : Answered :=
  s.answer path p.network p.now (List.replicate p.waits .take)
    { method := "POST", target := p.target, body := { chunks := p.chunks } }

/-- Posts one text after the other; the answers, and the store afterwards. -/
def postAll (path : String) : Store → List Posting → List (Option Response) × Store
  | s, [] => ([], s)
  | s, p :: rest =>
    let a := p.answer path s
    let (responses, s) := postAll path (Store.takeMany p.takes a.store) rest
    (a.response :: responses, s)

/-- **One posting** to an owner at work puts its state under its key, and is answered with it. -/
theorem Posting.answer_eq {path : String} {p : Posting} (hp : p.Fits path) {state : CachedState}
    (hstate : Replayable state) (htext : p.text = state.json) (hs : s.Ready) :
    (p.answer path s).response = some (.echo p.text) ∧ (p.answer path s).store.Ready ∧
      (p.answer path s).store.due = s.due.insert state.key state := by
  have hmeans : Body.Means { chunks := p.chunks } p.now (.state state .native) :=
    hstate.means (hp.chunks.trans (by rw [htext])) p.now
  have hdealt := s.dealt p.network p.now (List.replicate p.waits .take) { chunks := p.chunks }
  rw [answer, answer_post hp.isAt]
  generalize s.post p.network p.now (List.replicate p.waits .take) { chunks := p.chunks } = result
    at hdealt ⊢
  rcases hdealt.of_state hmeans with ⟨hresult, k, offer⟩ | hfull | ⟨k, -, hstopped⟩
  · rw [run_take_replicate] at offer
    refine ⟨by rw [hresult, htext]; rfl, (hs.takeMany _).offer offer, ?_⟩
    show result.store.due = _
    rw [due_of_accepted offer, due_takeMany]
    rfl
  · -- after the first command that the owner takes there is room
    have hfirst := hfull 1
    rw [run_take_replicate, Nat.min_eq_left hp.waits] at hfirst
    exact absurd (offer_eq_full_iff.1 hfirst).2 (Nat.not_le.2 hs.room)
  · rw [run_take_replicate, (hs.takeMany _).running] at hstopped
    cases hstopped

/-- **All postings**: each is answered with its text, and the states are due. -/
theorem postAll_eq {path : String} {postings : List Posting} {states : List CachedState}
    (hfits : ∀ p ∈ postings, p.Fits path) (hstates : ∀ state ∈ states, Replayable state)
    (htexts : postings.map Posting.text = states.map CachedState.json) (hs : s.Ready) :
    (postAll path s postings).1 = postings.map (fun p => some (.echo p.text)) ∧
      (postAll path s postings).2.Ready ∧
      (postAll path s postings).2.due =
        states.foldl (fun m state => m.insert state.key state) s.due := by
  induction postings generalizing states s with
  | nil =>
    obtain rfl : states = [] := List.map_eq_nil_iff.1 htexts.symm
    exact ⟨rfl, hs, rfl⟩
  | cons p rest ih =>
    cases states with
    | nil => cases htexts
    | cons state states =>
      obtain ⟨htext, htexts⟩ := List.cons.inj htexts
      obtain ⟨hresponse, hready, hdue⟩ := Posting.answer_eq (hfits p List.mem_cons_self)
        (hstates state List.mem_cons_self) htext hs
      obtain ⟨hresponses, hready', hdue'⟩ := ih
        (fun q hq => hfits q (List.mem_cons_of_mem _ hq))
        (fun t ht => hstates t (List.mem_cons_of_mem _ ht)) htexts (hready.takeMany p.takes)
      rw [due_takeMany, hdue] at hdue'
      refine ⟨?_, hready', hdue'⟩
      show (p.answer path s).response :: (postAll path _ rest).1 = _
      rw [hresponse, hresponses]
      rfl

end Store

/-! ### Replaying a dump -/

/-- **States under their own keys**, put into an empty map in any order, make the map that lists
them. -/
theorem foldl_insert_perm {m : States} (hkeys : ∀ key s, m.get? key = some s → s.key = key)
    {states : List CachedState} (hperm : states.Perm (m.toList.map (·.2))) :
    states.foldl (fun m s => m.insert s.key s) ∅ = m := by
  have hentries : m.toList.map (fun e => (e.2.key, e.2)) = m.toList := by
    conv_rhs => rw [← List.map_id m.toList]
    refine List.map_congr_left fun e he => ?_
    rw [hkeys e.1 e.2 ((m.mem_toList_iff e.1 e.2).1 he)]
    rfl
  have hall : m.toList.Perm (states.map fun s => (s.key, s)) := by
    have hmap := hperm.map fun s => (s.key, s)
    rw [List.map_map] at hmap
    exact (hentries ▸ hmap).symm
  have hlist := KeyedMap.toList_ofList m.ascending hall
  rw [KeyedMap.ofList, List.foldl_map] at hlist
  exact KeyedMap.eq_of_toList_eq hlist

namespace Store

/-- An answer with states can be replayed: an empty store that is posted each of the texts that are
shown, in any order, answers with them and shows the same afterwards. -/
def Replays (dump : Response) : Prop :=
  ∀ (i : Intake) (path : String) (postings : List Posting), (∀ p ∈ postings, p.Fits path) →
    (postings.map Posting.text).Perm (dump.shown.map (·.2)) →
    (postAll path (ofIntake i).start postings).1 =
        postings.map (fun p => some (.plain ("Caching state: " ++ p.text ++ "\n"))) ∧
      ∀ (target : String) (n : Network) (now : Int64) (waits : Nat) (b : Body),
        Route.isAt path target = true → Route.isAt healthPath target = false → 0 < waits →
        ((postAll path (ofIntake i).start postings).2.answer path n now
          (List.replicate waits .take) { method := "GET", target, body := b }).response = some dump

/-- **States that can be posted**, each under its own key, can be replayed. -/
theorem replays_dump {m : States}
    (hm : ∀ key s, m.get? key = some s → s.key = key ∧ Replayable s) : Replays (.dump m) := by
  intro i path postings hfits hperm
  -- the texts are those of the states, in the order of the postings
  obtain ⟨states, htexts, hstates⟩ : ∃ states : List CachedState,
      postings.map Posting.text = states.map CachedState.json ∧
        states.Perm (m.toList.map (·.2)) := by
    have hjson : (postings.map Posting.text).Perm
        ((m.toList.map (·.2)).map CachedState.json) := by
      rw [Response.shown_dump, List.map_map] at hperm
      rw [List.map_map]
      exact hperm
    exact (congrFun₂ (List.eq_map_comp_perm CachedState.json) _ _).mpr hjson
  have hreplayable : ∀ state ∈ states, Replayable state := by
    intro state hmem
    obtain ⟨e, he, rfl⟩ := List.mem_map.1 (hstates.mem_iff.1 hmem)
    exact (hm e.1 e.2 ((m.mem_toList_iff e.1 e.2).1 he)).2
  obtain ⟨hresponses, hready, hdue⟩ :=
    postAll_eq hfits hreplayable htexts (ready_start_ofIntake i)
  refine ⟨hresponses, fun target n now waits b hat hhealth hwaits => ?_⟩
  have hsame : (postAll path (ofIntake i).start postings).2.due = m :=
    hdue.trans (foldl_insert_perm (fun key s hs => (hm key s hs).1) hstates)
  rw [hready.dump_of_get hwaits hat hhealth, hsame]

end Store

namespace Traffic

/-- **A dump can be replayed.**  However posts and ticks have gone on, if the clock never showed
zero, every cached state is under its own key and lacks nothing.  And if all states that a relay
shows name an entity and none is too long for a body, then posting each of the texts that are shown
to an empty relay, in any order, at any times and in any chunks, is answered with these texts, and
the relay shows afterwards what the first one has shown, byte for byte. -/
theorem dump_replays (i : Intake) (queue : Queue) (delivery : Delivery) (moves : List Move)
    (hposted : ∀ s, Move.upsert s ∈ moves → s.IsPosted) :
    (∀ key s, ((ofIntake i queue delivery).run moves).relay.store.cached.get? key = some s →
      s.key = key ∧ s.Filled) ∧
    ∀ (path target : String) (n : Network) (now : Int64) (b : Body) (dump : Response),
      Route.isAt path target = true → Route.isAt healthPath target = false →
      ((ofIntake i queue delivery).run moves).relay.store.owner = .running →
      (((ofIntake i queue delivery).run moves).relay.store.answer path n now []
        { method := "GET", target, body := b }).response = some dump →
      (∀ key s, ((ofIntake i queue delivery).run moves).relay.store.due.get? key = some s →
        s.event.entity ≠ "" ∧ (utf8 s.json).length ≤ Body.limit) →
      Store.Replays dump := by
  have hv := sound_run i queue delivery moves
  have hfilled : ∀ n key s,
      (replay (((ofIntake i queue delivery).run moves).record.entered.take n)).get? key = some s →
        s.key = key ∧ s.Filled := fun n key s hs => filled_of_get?_replay hposted hs
  generalize (ofIntake i queue delivery).run moves = v at hv hfilled ⊢
  refine ⟨fun key s hs => hfilled v.applied key s (by rw [← hv.follows.cached]; exact hs), ?_⟩
  intro path target n now b dump hat hhealth ho hdump hposts
  have howner : (v.relay.store.answer path n now []
      { method := "GET", target, body := b }).store.owner = .running := by
    rw [Store.answer_get hat hhealth]
    refine Store.snapshot_owner fun k => ?_
    rw [List.take_nil]
    exact ho
  obtain rfl : dump = .dump v.relay.store.due := by
    rcases Store.answer_get_of_running hat hhealth howner with ⟨k, -, hanswer⟩ | ⟨hnone, -⟩
    · rw [hdump, List.take_nil] at hanswer
      exact Option.some.inj hanswer
    · rw [hdump] at hnone
      cases hnone
  refine Store.replays_dump fun key s hs => ?_
  obtain ⟨hentity, hshort⟩ := hposts key s hs
  -- what is due is what the whole history leaves
  rw [hv.follows.due_eq (by simp [ho]), ← List.take_length (l := v.record.entered)] at hs
  obtain ⟨hkey, hfilled⟩ := hfilled _ key s hs
  exact ⟨hkey, hfilled, hentity, hshort⟩

/-- A disk is full; the state is sent once. -/
def diskFull : CachedState where
  event := { Event.service "db1" "disk" "critical" "full" 1700000000 with
    tags := some (.ofList [(fromBroker, brokerName)]) }
  ttl := -1

/-- Both reports as a relay holds them, by ascending key. -/
def bothReports : States :=
  .ofList [("db1:disk", diskFull), ("web1:ping", Store.fine)]

/-- The reports are posted and cached. -/
def reported : List Move :=
  [.start, .upsert Store.fine, .take, .upsert diskFull, .take]

/-- The text of a state, posted to another relay whose clock shows zero. -/
def posting (s : CachedState) : Store.Posting where
  text := s.json
  target := "/state"
  chunks := [utf8 s.json]
  network := .isolated
  now := 0
  waits := 1
  takes := 0

theorem replayable_reported : ∀ s, Move.upsert s ∈ reported → Store.Replayable s := by
  have htags : ∃ labels name, some (KeyedMap.ofList [(fromBroker, brokerName)]) = some labels ∧
      labels.get? fromBroker = some name ∧ name ≠ "" := ⟨_, brokerName, rfl, by decide, by decide⟩
  intro s hs
  obtain rfl | rfl : s = Store.fine ∨ s = diskFull := by simpa [reported] using hs
  · exact ⟨⟨by decide, by decide, by decide, htags⟩, by decide, by decide +kernel⟩
  · exact ⟨⟨by decide, by decide, by decide, htags⟩, by decide, by decide +kernel⟩

theorem dump_replays_reported :
    (∀ s, Move.upsert s ∈ reported → s.IsPosted) ∧
      (((ofIntake {} {} {}).run reported).relay.store.answer "/state" .isolated 1 []
        { method := "GET", target := "/state" }).response = some (.dump bothReports) ∧
      (Response.dump bothReports).shown =
        [("db1:disk", diskFull.json), ("web1:ping", Store.fine.json)] ∧
      (Store.postAll "/state" (Store.ofIntake {}).start [posting Store.fine, posting diskFull]).1 =
        [some (.plain ("Caching state: " ++ Store.fine.json ++ "\n")),
          some (.plain ("Caching state: " ++ diskFull.json ++ "\n"))] ∧
      ((Store.postAll "/state" (Store.ofIntake {}).start
          [posting Store.fine, posting diskFull]).2.answer "/state" .isolated 2 [.take]
        { method := "GET", target := "/state" }).response = some (.dump bothReports) := by
  have hposted : ∀ s, Move.upsert s ∈ reported → s.IsPosted := fun s hs =>
    ⟨⟨[utf8 s.json], none⟩, 1, .native, by decide,
      (replayable_reported s hs).means (List.append_nil _) 1⟩
  have hat : Route.isAt "/state" "/state" = true := by decide +kernel
  have hhealth : Route.isAt healthPath "/state" = false := by decide +kernel
  have hdue : ((ofIntake {} {} {}).run reported).relay.store.due = bothReports := by
    decide +kernel
  have hdump : (((ofIntake {} {} {}).run reported).relay.store.answer "/state" .isolated 1 []
      { method := "GET", target := "/state" }).response = some (.dump bothReports) := by
    rw [Store.answer_get hat hhealth]
    rfl
  have hshown : (Response.dump bothReports).shown =
      [("db1:disk", diskFull.json), ("web1:ping", Store.fine.json)] := by
    rw [Response.shown_dump]
    rfl
  have hposts : ∀ key s,
      ((ofIntake {} {} {}).run reported).relay.store.due.get? key = some s →
        s.event.entity ≠ "" ∧ (utf8 s.json).length ≤ Body.limit := by
    intro key s hs
    rw [hdue, ← KeyedMap.mem_toList_iff] at hs
    obtain ⟨rfl, rfl⟩ | ⟨rfl, rfl⟩ : (key = "db1:disk" ∧ s = diskFull) ∨
        (key = "web1:ping" ∧ s = Store.fine) := by
      have hmem : (key, s) ∈ [("db1:disk", diskFull), ("web1:ping", Store.fine)] := hs
      simpa using hmem
    · have hreplayable := replayable_reported diskFull (by simp [reported])
      exact ⟨hreplayable.entity, hreplayable.short⟩
    · have hreplayable := replayable_reported Store.fine (by simp [reported])
      exact ⟨hreplayable.entity, hreplayable.short⟩
  have hreplays := (dump_replays {} {} {} reported hposted).2 "/state" "/state" .isolated 1
    { chunks := [] } _ hat hhealth rfl hdump hposts
  have hfits : ∀ p ∈ [posting Store.fine, posting diskFull], p.Fits "/state" := by
    have hfit : ∀ s, (posting s).Fits "/state" := fun s =>
      ⟨hat, List.append_nil _, Nat.zero_lt_one⟩
    simp [hfit]
  -- the texts are posted in the other order
  have hperm : ([posting Store.fine, posting diskFull].map Store.Posting.text).Perm
      ((Response.dump bothReports).shown.map (·.2)) := by
    rw [hshown]
    exact List.Perm.swap _ _ _
  obtain ⟨hresponses, hagain⟩ := hreplays {} "/state" _ hfits hperm
  exact ⟨hposted, hdump, hshown, hresponses,
    hagain "/state" .isolated 2 1 { chunks := [] } hat hhealth Nat.zero_lt_one⟩

end Traffic

end AlertRelay
