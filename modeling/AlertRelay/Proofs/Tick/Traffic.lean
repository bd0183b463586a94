/-
AlertRelay/Proofs/Tick/Traffic.lean

Ticks among other callers.

A tick makes its steps while others cache states and ask for them, while the owner takes commands at
its own pace, and while the queue takes or refuses what is sent.  Traffic is any sequence of such
moves, one tick after the other.  It carries a record along, which is no part of the relay: each
command that enters, each state that is tried.

What a move can do is said once (`Moved`).  Whatever holds of all traffic is read off from that,
here and in the modules that build on this one.

The invariant (`Traffic.Sound`) is that the store follows the recorded history, that the record is
sound, and that the tick stands somewhere sensible (`Stands`): a tick that has asked has its
question at its place, and a tick that has its states has those that were cached at its place, the
ones tried already coming before the others.
-/
import AlertRelay.Proofs.Store.Ledger
import AlertRelay.Proofs.Tick.Record

namespace AlertRelay

/-- A relay with a tick under way, and the record of what happened. -/
structure Traffic where
  relay : Relay
  tick : Tick
  /-- How many commands the owner has applied. -/
  applied : Nat := 0
  record : Record := {}

namespace Traffic

/-! ### Moves -/

/-- An empty store with any queue, before the first tick. -/
def ofIntake (i : Intake) (queue : Queue) (delivery : Delivery) : Traffic where
  relay := ⟨.ofIntake i, queue, delivery⟩
  tick := { now := 0, stage := .sending [] }

/-- What somebody does. -/
inductive Move where
  /-- A caller offers a state to the intake. -/
  | upsert (s : CachedState)
  /-- A caller offers a question for the cached states. -/
  | look
  | start
  | take
  | cancel
  /-- A tick begins, if none is under way. -/
  | begin (now : Int64)
  /-- The tick makes a step. -/
  | step
deriving DecidableEq

/-- The traffic with another store. -/
def withStore (v : Traffic) (s : Store) : Traffic :=
  { v with relay := { v.relay with store := s } }

/-- A caller offers a command to a store. -/
def offered (v : Traffic) (c : Command) (s : Store) : Traffic :=
  match s.offer c with
  | .accepted s => { v.withStore s with record := v.record.enter c }
  | .full => v
  | .closed => v

/-- What a step adds to the record: the stages before and after it tell. -/
def noted (r : Record) (now : Int64) : Stage → Stage → Record
  | .asking, .awaiting ticket => r.ask ticket
  | .sending ((_, s) :: _), _ => r.attempt s now
  | .dropping key _, .sending _ => r.drop key
  | _, _ => r

/-- The traffic after a step of the tick. -/
def stepped (v : Traffic) (after : Tick × Relay) : Traffic :=
  { v with
    relay := after.2
    tick := after.1
    record := noted v.record v.tick.now v.tick.stage after.1.stage }

/-- The traffic after a move. -/
def act (v : Traffic) : Move → Traffic
  | .upsert s => v.offered (.upsert s) v.relay.store
  | .look => v.offered (.snapshot v.relay.store.tickets) v.relay.store.withTicket
  | .start => v.withStore v.relay.store.start
  | .take =>
    { v.withStore v.relay.store.take with
      applied :=
        v.applied + (v.relay.store.waiting.length - v.relay.store.take.waiting.length) }
  | .cancel => v.withStore v.relay.store.cancel
  | .begin now =>
    match v.tick.result with
    | .ended _ => { v with tick := { now := now } }
    | .waiting => v
  | .step => v.stepped (v.tick.step v.relay)

/-- The traffic after some moves. -/
def run (v : Traffic) (moves : List Move) : Traffic :=
  moves.foldl act v

/-! ### What a move does -/

/-- What becomes of traffic. -/
inductive Moved (v : Traffic) : Move → Traffic → Prop where
  | rests (move : Move) : Moved v move v
  /-- A caller's state is accepted. -/
  | submits (s : CachedState) (store : Store)
      (offer : v.relay.store.offer (.upsert s) = .accepted store) :
      Moved v (.upsert s) { v.withStore store with record := v.record.enter (.upsert s) }
  /-- A caller's question is accepted. -/
  | looks (store : Store)
      (offer : v.relay.store.withTicket.offer (.snapshot v.relay.store.tickets) =
        .accepted store) :
      Moved v .look
        { v.withStore store with record := v.record.enter (.snapshot v.relay.store.tickets) }
  | starts : Moved v .start (v.withStore v.relay.store.start)
  | takes (c : Command) (rest : List Command) (running : v.relay.store.owner = .running)
      (waiting : v.relay.store.waiting = c :: rest) :
      Moved v .take { v.withStore v.relay.store.take with applied := v.applied + 1 }
  | cancels : Moved v .cancel (v.withStore v.relay.store.cancel)
  | begins (now : Int64) (ended : v.tick.result ≠ .waiting) :
      Moved v (.begin now) { v with tick := { now := now } }
  /-- The question of the tick is accepted. -/
  | asks (store : Store) (stage : v.tick.stage = .asking)
      (offer : v.relay.store.withTicket.offer (.snapshot v.relay.store.tickets) =
        .accepted store) :
      Moved v .step
        { v.withStore store with
          tick := { v.tick with stage := .awaiting v.relay.store.tickets }
          record := v.record.ask v.relay.store.tickets }
  | finds (ticket : Nat) (states : States) (stage : v.tick.stage = .awaiting ticket)
      (answer : v.relay.store.answerTo ticket = .ended (.ok states)) :
      Moved v .step
        { v with
          tick := { v.tick with
            stage := .sending states.toList
            report := { cached := states.size } } }
  | tries (key : String) (s : CachedState) (rest : List (String × CachedState))
      (stage : v.tick.stage = .sending ((key, s) :: rest)) :
      Moved v .step
        { v with
          relay := (v.tick.attempt s v.relay).2
          tick := { v.tick with
            stage := Tick.stageAfter key s rest
            report := (v.tick.attempt s v.relay).1 }
          record := v.record.attempt s v.tick.now }
  /-- The tombstone of the tick is accepted. -/
  | drops (key : String) (rest : List (String × CachedState)) (store : Store)
      (stage : v.tick.stage = .dropping key rest)
      (offer : v.relay.store.offer (.tombstone key) = .accepted store) :
      Moved v .step
        { v.withStore store with
          tick := { v.tick with
            stage := .sending rest
            report := { v.tick.report with tombstoned := v.tick.report.tombstoned + 1 } }
          record := v.record.drop key }
  | fails (e : StoreError) (stopped : v.relay.store.owner = .stopped) :
      Moved v .step { v with tick := { v.tick with stage := .failed e } }

/-- A step of the tick is one of six moves. -/
theorem moved_step (v : Traffic) : Moved v .step (v.act .step) := by
  have hstepped := v.tick.stepped v.relay
  show Moved v .step (v.stepped (v.tick.step v.relay))
  generalize v.tick.step v.relay = after at hstepped
  unfold stepped noted
  cases hstepped with
  | asks store stage offer =>
    rw [stage]
    exact .asks store stage offer
  | finds ticket states stage answer =>
    rw [stage]
    exact .finds ticket states stage answer
  | tries key s rest stage =>
    rw [stage]
    exact .tries key s rest stage
  | drops key rest store stage offer =>
    rw [stage]
    exact .drops key rest store stage offer
  | fails e stage stopped =>
    -- only a tick that is sending could have something to note
    cases hs : v.tick.stage with
    | sending rest => exact absurd hs (stage rest)
    | _ => exact .fails e stopped
  | rests stage =>
    cases hs : v.tick.stage with
    | sending rest =>
      cases rest with
      | nil => exact .rests .step
      | cons x rest => exact absurd hs (stage x rest)
    | _ => exact .rests .step

/-- **A move** does one of twelve things. -/
theorem moved (v : Traffic) (move : Move) : Moved v move (v.act move) := by
  cases move with
  | upsert s =>
    simp only [act, offered]
    cases ho : v.relay.store.offer (.upsert s) with
    | accepted store => exact .submits s store ho
    | full => exact .rests _
    | closed => exact .rests _
  | look =>
    simp only [act, offered]
    cases ho : v.relay.store.withTicket.offer (.snapshot v.relay.store.tickets) with
    | accepted store => exact .looks store ho
    | full => exact .rests _
    | closed => exact .rests _
  | start => exact .starts
  | take =>
    rcases v.relay.store.take_cases with ⟨heq, -⟩ | ⟨c, rest, ho, hw, heq⟩
    · simp only [act, heq, Nat.sub_self]
      exact .rests _
    · have hone : v.relay.store.waiting.length - v.relay.store.take.waiting.length = 1 := by
        simp [heq, hw]
      simp only [act, hone]
      exact .takes c rest ho hw
  | cancel => exact .cancels
  | begin now =>
    simp only [act]
    cases hresult : v.tick.result with
    | ended result => exact .begins now (by simp [hresult])
    | waiting => exact .rests _
  | step => exact v.moved_step

/-- **Every move** keeps the store on the history that is recorded. -/
theorem Moved.follows {v w : Traffic} {move : Move} (hm : Moved v move w)
    (hf : Follows v.record.entered v.applied v.relay.store) :
    Follows w.record.entered w.applied w.relay.store := by
  cases hm with
  | submits s store offer => exact hf.submit offer fun _ he => by cases he
  | looks store offer => exact hf.ask offer
  | starts => exact hf.start
  | takes c rest running waiting =>
    rcases hf.take with hsame | ⟨-, -, hf⟩
    · -- something was taken, so the store is another one
      have hwaiting := congrArg Store.waiting hsame
      simp [Store.take, running, waiting] at hwaiting
    · exact hf
  | cancels => exact hf.cancel
  | asks store stage offer => exact hf.ask offer
  | drops key rest store stage offer => exact hf.submit offer fun _ he => by cases he
  | _ => exact hf

/-! ### Where a tick stands -/

/-- The states that a tick has not tried yet. -/
structure Left (r : Record) (rest : List (String × CachedState)) : Prop where
  ascending : Ascending rest
  /-- They were cached at the tick's place. -/
  held : ∀ key s, (key, s) ∈ rest → s.key = key ∧
    (∃ ticket, r.entered[r.asked]? = some (.snapshot ticket)) ∧
    ∃ i, Holds (r.entered.take r.asked) i s
  /-- They come after those it has tried. -/
  later : ∀ a ∈ r.attempts, a.asked = r.asked → ∀ e ∈ rest, compare a.state.key e.1 = .lt

/-- What the record says about a tick at some stage. -/
def Stands (r : Record) (stopped : Prop) : Stage → Prop
  | .asking => stopped ∨ r.AllDropped
  | .awaiting ticket =>
    r.entered[r.asked]? = some (.snapshot ticket) ∧ (∀ a ∈ r.attempts, a.asked < r.asked) ∧
      r.AllDropped
  | .sending rest => Left r rest ∧ r.AllDropped
  | .dropping key rest =>
    Left r rest ∧ ∃ a ∈ r.attempts, a.asked = r.asked ∧ a.state.isOneShot = true ∧
      a.state.key = key ∧ ∀ b ∈ r.attempts, b.state.isOneShot = true → b = a ∨ r.Dropped b
  | .failed _ => stopped

/-- What holds of traffic all the time. -/
structure Sound (v : Traffic) : Prop where
  follows : Follows v.record.entered v.applied v.relay.store
  record : v.record.Sound
  stands : Stands v.record (v.relay.store.owner = .stopped) v.tick.stage

theorem sound_ofIntake (i : Intake) (queue : Queue) (delivery : Delivery) :
    Sound (ofIntake i queue delivery) where
  follows := Follows.ofIntake i
  record := Record.sound_empty
  stands := by
    refine ⟨⟨List.Pairwise.nil, ?_, ?_⟩, ?_⟩
    · intro key s hmem
      cases hmem
    · intro a ha
      cases ha
    · intro a ha
      cases ha

/-! ### A longer history -/

variable {r : Record}

/-- What the record says stays true when a command enters and the tick does nothing. -/
theorem Left.extend {rest : List (String × CachedState)} (hl : Left r rest) (hr : r.Sound)
    (c : Command) (drops : List (Nat × Nat)) :
    Left ⟨r.entered ++ [c], r.asked, r.attempts, drops⟩ rest where
  ascending := hl.ascending
  held := by
    intro key s hmem
    obtain ⟨hkey, ⟨ticket, ht⟩, i, hi⟩ := hl.held key s hmem
    refine ⟨hkey, ⟨ticket, ?_⟩, i, ?_⟩
    · rw [← ht]
      exact List.getElem?_append_left (List.getElem?_eq_some_iff.1 ht).1
    · show Holds ((r.entered ++ [c]).take r.asked) i s
      rw [List.take_append_of_le_length hr.asked_le]
      exact hi
  later := hl.later

/-- **Where a tick stands** stays so when somebody else's command enters. -/
theorem Stands.enter {stopped : Prop} {stage : Stage} (hst : Stands r stopped stage) (hr : r.Sound)
    (c : Command) : Stands (r.enter c) stopped stage := by
  have hdropped : ∀ a, r.Dropped a → (r.enter c).Dropped a := fun a hd =>
    hd.mono (List.prefix_append _ _) fun d hd => hd
  have hall : r.AllDropped → (r.enter c).AllDropped := fun hall a ha hone =>
    hdropped a (hall a ha hone)
  cases stage with
  | asking => exact hst.imp id hall
  | awaiting ticket =>
    obtain ⟨ht, hbefore, hd⟩ := hst
    refine ⟨?_, hbefore, hall hd⟩
    rw [← ht]
    exact List.getElem?_append_left (List.getElem?_eq_some_iff.1 ht).1
  | sending rest =>
    obtain ⟨hl, hd⟩ := hst
    exact ⟨hl.extend hr c r.drops, hall hd⟩
  | dropping key rest =>
    obtain ⟨hl, a, ha, hasked, hone, hkey, hothers⟩ := hst
    refine ⟨hl.extend hr c r.drops, a, ha, hasked, hone, hkey, fun b hb hb1 => ?_⟩
    exact (hothers b hb hb1).imp id (hdropped b)
  | failed e => exact hst

/-- Where a tick stands does not depend on the owner, but that an owner that has stopped excuses
it. -/
theorem Stands.mono {stopped stopped' : Prop} {stage : Stage} (hst : Stands r stopped stage)
    (himp : stopped → stopped') : Stands r stopped' stage := by
  cases stage with
  | asking => exact Or.imp himp id hst
  | awaiting ticket => exact hst
  | sending rest => exact hst
  | dropping key rest => exact hst
  | failed e => exact himp hst

/-! ### Steps of the tick -/

/-- The answer to a tick is what was cached at its place. -/
theorem Left.of_answer {s : Store} {n ticket : Nat} {states : States}
    (hf : Follows r.entered n s) (ht : r.entered[r.asked]? = some (.snapshot ticket))
    (hbefore : ∀ a ∈ r.attempts, a.asked < r.asked)
    (hanswer : s.answerTo ticket = .ended (.ok states)) : Left r states.toList := by
  have hstates : states = replay (r.entered.take r.asked) := by
    rw [hf.answerTo_eq ht] at hanswer
    split at hanswer
    · simpa using hanswer.symm
    · split at hanswer <;> cases hanswer
  refine ⟨states.ascending, fun key s hmem => ?_, fun a ha hasked => ?_⟩
  · rw [KeyedMap.mem_toList_iff, hstates, get?_replay_eq_some_iff] at hmem
    exact ⟨hmem.1, ⟨ticket, ht⟩, hmem.2⟩
  · exact absurd hasked (Nat.ne_of_lt (hbefore a ha))

/-- **Asking** gives the tick its place. -/
theorem Stands.ask {stopped : Prop} (hst : Stands r stopped .asking) (hr : r.Sound)
    (hstop : ¬ stopped) (ticket : Nat) :
    Stands (r.ask ticket) stopped (.awaiting ticket) := by
  have hall : r.AllDropped := hst.resolve_left hstop
  refine ⟨?_, fun a ha => ?_, fun a ha hone => ?_⟩
  · show (r.entered ++ [.snapshot ticket])[r.entered.length]? = _
    simp
  · obtain ⟨t, ht⟩ := hr.snapshot a ha
    exact (List.getElem?_eq_some_iff.1 ht).1
  · exact (hall a ha hone).mono (List.prefix_append _ _) fun d hd => hd

/-- **Trying** the first state that is left. -/
theorem Stands.attempt {stopped : Prop} {key : String} {s : CachedState}
    {rest : List (String × CachedState)} (hst : Stands r stopped (.sending ((key, s) :: rest)))
    (hr : r.Sound) (now : Int64) :
    (r.attempt s now).Sound ∧ Stands (r.attempt s now) stopped (Tick.stageAfter key s rest) := by
  obtain ⟨hl, hall⟩ := hst
  obtain ⟨hkey, ⟨ticket, ht⟩, i, hi⟩ := hl.held key s (.head _)
  obtain ⟨hfirst, hrest⟩ := List.pairwise_cons.1 hl.ascending
  have hcompare : ∀ a ∈ r.attempts, a.asked = r.asked → compare a.state.key s.key = .lt := by
    intro a ha hasked
    rw [hkey]
    exact hl.later a ha hasked (key, s) (.head _)
  have hleft : Left (r.attempt s now) rest := by
    refine ⟨hrest, fun key' s' hmem => hl.held key' s' (.tail _ hmem), fun a ha hasked e he => ?_⟩
    rcases List.mem_append.1 ha with ha | ha
    · exact hl.later a ha hasked e (.tail _ he)
    · rw [List.mem_singleton.1 ha]
      show compare s.key e.1 = .lt
      rw [hkey]
      exact hfirst e he
  refine ⟨hr.attempt now ht hi hcompare hall, ?_⟩
  unfold Tick.stageAfter
  by_cases hone : s.isOneShot = true
  · rw [if_pos hone]
    refine ⟨hleft, ⟨r.asked, s, now⟩, List.mem_append_right _ List.mem_cons_self, rfl, hone, hkey,
      fun b hb hb1 => ?_⟩
    rcases List.mem_append.1 hb with hb | hb
    · exact .inr (hall b hb hb1)
    · exact .inl (List.mem_singleton.1 hb)
  · rw [if_neg hone]
    refine ⟨hleft, fun b hb hb1 => ?_⟩
    rcases List.mem_append.1 hb with hb | hb
    · exact hall b hb hb1
    · rw [List.mem_singleton.1 hb] at hb1
      exact absurd hb1 hone

/-- **Dropping** the state that has just been tried. -/
theorem Stands.drop {stopped : Prop} {key : String} {rest : List (String × CachedState)}
    (hst : Stands r stopped (.dropping key rest)) (hr : r.Sound) :
    (r.drop key).Sound ∧ Stands (r.drop key) stopped (.sending rest) := by
  obtain ⟨hl, a, ha, hasked, hone, rfl, hothers⟩ := hst
  refine ⟨hr.drop_of_attempt ha hasked hone, hl.extend hr _ _, fun b hb hb1 => ?_⟩
  rcases hothers b hb hb1 with rfl | hd
  · refine ⟨r.entered.length, ?_, ?_⟩
    · show (r.entered.length, b.asked) ∈ r.drops ++ [(r.entered.length, r.asked)]
      rw [hasked]
      exact List.mem_append_right _ List.mem_cons_self
    · show (r.entered ++ [.tombstone b.state.key])[r.entered.length]? = _
      simp
  · exact hd.mono (List.prefix_append _ _) fun d hd => List.mem_append_left _ hd

/-! ### Runs -/

variable {v w : Traffic}

/-- A tick that is not waiting has nothing left to drop, or the owner has stopped. -/
theorem Stands.asking_of_ended (hst : Stands r (v.relay.store.owner = .stopped) v.tick.stage)
    (hended : v.tick.result ≠ .waiting) :
    Stands r (v.relay.store.owner = .stopped) .asking := by
  unfold Tick.result at hended
  split at hended
  · rename_i hs
    rw [hs] at hst
    exact .inr hst.2
  · rename_i e hs
    rw [hs] at hst
    exact .inl hst
  · exact absurd rfl hended

theorem Sound.moved (hv : Sound v) {move : Move} (hm : Moved v move w) : Sound w := by
  have hfollows := hm.follows hv.follows
  have hst := hv.stands
  cases hm with
  | rests => exact hv
  | submits s store offer =>
    obtain ⟨-, -, rfl⟩ := Store.offer_eq_accepted_iff.1 offer
    exact ⟨hfollows, hv.record.enter nofun, hst.enter hv.record _⟩
  | looks store offer =>
    obtain ⟨-, -, rfl⟩ := Store.offer_eq_accepted_iff.1 offer
    exact ⟨hfollows, hv.record.enter nofun, hst.enter hv.record _⟩
  | starts => exact ⟨hfollows, hv.record, hst.mono (Store.start_owner_eq_stopped_iff _).2⟩
  | takes => exact ⟨hfollows, hv.record, hst.mono (Store.take_owner _).trans⟩
  | cancels => exact ⟨hfollows, hv.record, hst.mono fun _ => rfl⟩
  | begins now ended => exact ⟨hfollows, hv.record, hst.asking_of_ended ended⟩
  | asks store stage offer =>
    -- The question was accepted, so the owner has not stopped and all one-shot states are dropped.
    obtain ⟨howner, -, hstore⟩ := Store.offer_eq_accepted_iff.1 offer
    have howner : v.relay.store.owner ≠ .stopped := howner
    rw [stage] at hst
    refine ⟨hfollows, hv.record.ask _, ?_⟩
    exact (hst.ask hv.record howner _).mono fun hstop => absurd hstop howner
  | finds ticket states stage answer =>
    rw [stage] at hst
    obtain ⟨ht, hbefore, hall⟩ := hst
    exact ⟨hfollows, hv.record, Left.of_answer hv.follows ht hbefore answer, hall⟩
  | tries key s rest stage =>
    rw [stage] at hst
    obtain ⟨hrecord, hst⟩ := hst.attempt hv.record v.tick.now
    exact ⟨hfollows, hrecord, hst⟩
  | drops key rest store stage offer =>
    obtain ⟨howner, -, hstore⟩ := Store.offer_eq_accepted_iff.1 offer
    rw [stage] at hst
    obtain ⟨hrecord, hst⟩ := hst.drop hv.record
    exact ⟨hfollows, hrecord, hst.mono fun hstop => absurd hstop howner⟩
  | fails e stopped => exact ⟨hfollows, hv.record, stopped⟩

/-- **Every move** keeps the invariant up. -/
theorem Sound.act (hv : Sound v) (move : Move) : Sound (v.act move) :=
  hv.moved (v.moved move)

theorem Sound.run (hv : Sound v) (moves : List Move) : Sound (v.run moves) := by
  refine List.foldlRecOn (motive := Sound) moves Traffic.act hv ?_
  intro w hw move _
  exact hw.act move

/-- **Traffic** is sound, whoever does what in whichever order. -/
theorem sound_run (i : Intake) (queue : Queue) (delivery : Delivery) (moves : List Move) :
    Sound ((ofIntake i queue delivery).run moves) :=
  (sound_ofIntake i queue delivery).run moves

end Traffic

end AlertRelay
