/-
AlertRelay/Proofs/Tick/Undisturbed.lean

A tick while nobody else does anything.

Only the tick and the owner move (`Quiet`), each at its own pace.  The states that the tick finds
are those that were due when it began.  For each of them it sends what stands for it, and after it
the one-shot states are gone (`kept`) and nothing else has changed (`Within.after`).

While the tick is under way the states that are due are those that are kept and those that it has
not dropped yet, and its stage tells which these are (`Stage.spares`).  That is the invariant
(`Within`); a step of the owner keeps it up since the owner's pace does not change what is due.

An owner at work can always be waited for: it answers, and when it has taken a command there is
room for a tombstone.  So the tick can be brought to its end from wherever it stands
(`Within.ends`).
-/
import AlertRelay.Proofs.Store.Due
import AlertRelay.Proofs.Tick.Completion

namespace AlertRelay

/-! ### Entries of a map -/

namespace KeyedMap

variable {α : Type} {m : KeyedMap α}

/-- Only the entries of a map matter for what is filtered from it. -/
theorem filter_congr {p q : String → α → Bool} (h : ∀ e ∈ m.toList, p e.1 e.2 = q e.1 e.2) :
    m.filter p = m.filter q :=
  eq_of_toList_eq (List.filter_congr h)

theorem filter_eq_self {p : String → α → Bool} (h : ∀ e ∈ m.toList, p e.1 e.2 = true) :
    m.filter p = m :=
  eq_of_toList_eq (List.filter_eq_self.2 h)

theorem erase_filter (p : String → α → Bool) (key : String) :
    (m.filter p).erase key = m.filter fun k a => p k a && decide (k ≠ key) := by
  refine eq_of_toList_eq ?_
  show (m.toList.filter _).filter _ = m.toList.filter _
  rw [List.filter_filter]
  refine List.filter_congr fun e _ => ?_
  rw [Bool.and_comm]

/-- An entry comes with its key once. -/
theorem eq_of_split {key : String} {a : α} {before after : List (String × α)}
    (h : m.toList = before ++ (key, a) :: after) {e : String × α} (he : e ∈ m.toList)
    (hkey : e.1 = key) : e.2 = a ∧ key ∉ after.map (·.1) := by
  have ha : m.get? key = some a := by
    rw [← mem_toList_iff, h]
    exact List.mem_append_right _ List.mem_cons_self
  have hb : m.get? key = some e.2 := by
    rw [← hkey, ← mem_toList_iff]
    exact he
  refine ⟨Option.some.inj (hb.symm.trans ha), ?_⟩
  have hnodup := nodup_of_ascending m.ascending
  rw [h, List.map_append, List.map_cons] at hnodup
  exact (List.nodup_cons.1 (List.nodup_append.1 hnodup).2.1).1

end KeyedMap

/-! ### What remains -/

/-- The states that are sent again and again. -/
def kept (m : States) : States :=
  m.filter fun _ s => decide (0 ≤ s.ttl)

theorem kept_kept (m : States) : kept (kept m) = kept m := by
  refine KeyedMap.filter_eq_self fun e he => ?_
  exact (List.mem_filter.1 he).2

/-- A state is kept unless it is a one-shot state. -/
theorem decide_ttl_eq (s : CachedState) : decide (0 ≤ s.ttl) = !s.isOneShot := by
  rw [CachedState.isOneShot, ← decide_not]
  exact decide_eq_decide.2 Int64.not_lt.symm

/-- Whether a tick has yet to drop what is cached under a key, if that is due to be dropped. -/
def Stage.spares : Stage → String → Bool
  | .sending rest, key => decide (key ∈ rest.map (·.1))
  | .dropping key' rest, key => decide (key ∈ key' :: rest.map (·.1))
  | .asking, _ => true
  | .awaiting _, _ => true
  | .failed _, _ => true

namespace Traffic

/-! ### Moves of a tick and of the owner -/

/-- Nobody but a tick and the owner does anything. -/
def Quiet (moves : List Move) : Prop :=
  ∀ move ∈ moves, move = .step ∨ move = .take

/-- The states that are due while a tick is under way that has found `m`. -/
def remains (m : States) (stage : Stage) : States :=
  m.filter fun key s => decide (0 ≤ s.ttl) || stage.spares key

/-- The tick has its time, and nothing has been sent. -/
structure Untouched (v w : Traffic) : Prop where
  now : w.tick.now = v.tick.now
  delivery : w.relay.delivery = v.relay.delivery
  queue : w.relay.queue = v.relay.queue

/-- How a tick stands at some stage that has begun in `v`, when `m` was due. -/
def Underway (v w : Traffic) (m : States) : Stage → Prop
  | .asking => Untouched v w
  | .awaiting ticket =>
    Untouched v w ∧ w.record.entered[w.record.asked]? = some (.snapshot ticket) ∧
      replay (w.record.entered.take w.record.asked) = m
  -- it has found its states in `u`
  | _ => ∃ u, Untouched v u ∧ Course u w m.size m.toList

/-- What holds while a tick is under way that has begun in `v`. -/
structure Within (v w : Traffic) (m : States) : Prop where
  follows : Follows w.record.entered w.applied w.relay.store
  ready : w.relay.store.Ready
  due : w.relay.store.due = remains m w.tick.stage
  underway : Underway v w m w.tick.stage

variable {v w : Traffic} {m : States}

/-- **The owner** changes nothing for the tick. -/
theorem Within.take (h : Within v w m) : Within v (w.act .take) m where
  follows := (w.moved .take).follows h.follows
  ready := h.ready.take
  due := w.relay.store.due_take.trans h.due
  underway := by
    have hunmoved : Unmoved w (w.act .take) := unmoved_act w (by simp) (by simp)
    have hunderway := h.underway
    rw [hunmoved.tick]
    cases hstage : w.tick.stage with
    | asking =>
      rw [hstage] at hunderway
      exact ⟨hunderway.now, hunderway.delivery, hunderway.queue⟩
    | awaiting ticket =>
      rw [hstage] at hunderway
      obtain ⟨huntouched, hplace, hfound⟩ := hunderway
      exact ⟨⟨huntouched.now, huntouched.delivery, huntouched.queue⟩, hplace, hfound⟩
    | _ =>
      rw [hstage] at hunderway
      obtain ⟨u, huntouched, hcourse⟩ := hunderway
      exact ⟨u, huntouched, hcourse.unmoved hunmoved⟩

/-- What a tick tries is one of the states that it has found. -/
theorem Course.split_of_sending {u : Traffic} {cached : Nat}
    {states : List (String × CachedState)} (h : Course u w cached states)
    {rest : List (String × CachedState)} (stage : w.tick.stage = .sending rest) :
    ∃ done, states = done ++ rest := by
  cases h with
  | sending done rest' split stage' gone =>
    rw [stage] at stage'
    obtain rfl := Stage.sending.inj stage'
    exact ⟨done, split⟩
  | dropping done key' s' rest' split oneShot stage' gone => simp [stage] at stage'
  | failed done key' s' rest' split oneShot stage' stopped gone => simp [stage] at stage'

/-- What a tick drops is a one-shot state that it has found. -/
theorem Course.split_of_dropping {u : Traffic} {cached : Nat}
    {states : List (String × CachedState)} (h : Course u w cached states) {key : String}
    {rest : List (String × CachedState)} (stage : w.tick.stage = .dropping key rest) :
    ∃ done s, states = done ++ (key, s) :: rest ∧ s.isOneShot = true := by
  cases h with
  | sending done rest' split stage' gone => simp [stage] at stage'
  | dropping done key' s rest' split oneShot stage' gone =>
    rw [stage] at stage'
    obtain ⟨rfl, rfl⟩ := Stage.dropping.inj stage'
    exact ⟨done, s, split, oneShot⟩
  | failed done key' s' rest' split oneShot stage' stopped gone => simp [stage] at stage'

/-- **After a state has been tried** the same ones remain. -/
theorem remains_stageAfter {key : String} {s : CachedState}
    {done rest : List (String × CachedState)} (h : m.toList = done ++ (key, s) :: rest) :
    remains m (Tick.stageAfter key s rest) = remains m (.sending ((key, s) :: rest)) := by
  unfold Tick.stageAfter
  by_cases hone : s.isOneShot = true
  · rw [if_pos hone]
    rfl
  · rw [if_neg hone]
    refine KeyedMap.filter_congr fun e he => ?_
    by_cases hkey : e.1 = key
    · -- this one is no one-shot state, so it is kept anyway
      have hkeep : decide (0 ≤ e.2.ttl) = true := by
        rw [(KeyedMap.eq_of_split h he hkey).1, decide_ttl_eq]
        simpa using hone
      simp [hkeep]
    · refine congrArg (decide (0 ≤ e.2.ttl) || ·) (decide_eq_decide.2 ?_)
      rw [List.map_cons, List.mem_cons, or_iff_right hkey]

/-- **After a state has been dropped** the others remain. -/
theorem erase_remains {key : String} {s : CachedState} {done rest : List (String × CachedState)}
    (h : m.toList = done ++ (key, s) :: rest) (hone : s.isOneShot = true) :
    (remains m (.dropping key rest)).erase key = remains m (.sending rest) := by
  rw [remains, KeyedMap.erase_filter]
  refine KeyedMap.filter_congr fun e he => ?_
  by_cases hkey : e.1 = key
  · obtain ⟨hstate, hrest⟩ := KeyedMap.eq_of_split h he hkey
    have hgone : decide (0 ≤ e.2.ttl) = false := by
      rw [hstate, decide_ttl_eq, hone]
      rfl
    simp [Stage.spares, hkey, hgone, hrest]
  · rw [decide_eq_true hkey, Bool.and_true]
    refine congrArg (decide (0 ≤ e.2.ttl) || ·) (decide_eq_decide.2 ?_)
    rw [List.mem_cons, or_iff_right hkey]

/-- A tick that is over has dropped what was due to be dropped. -/
theorem remains_nil (m : States) : remains m (.sending []) = kept m := by
  simp [remains, kept, Stage.spares]

theorem remains_found (m : States) : remains m (.sending m.toList) = m := by
  refine KeyedMap.filter_eq_self fun e he => ?_
  have hmem : e.1 ∈ m.toList.map (·.1) := List.mem_map.2 ⟨e, he, rfl⟩
  simp [Stage.spares, hmem]

theorem remains_asking (m : States) : remains m .asking = m :=
  KeyedMap.filter_eq_self fun e _ => by simp [Stage.spares]

/-- What is kept is kept at every stage. -/
theorem remains_kept (m : States) (stage : Stage) : remains (kept m) stage = kept m := by
  refine KeyedMap.filter_eq_self fun e he => ?_
  have hkeep : decide (0 ≤ e.2.ttl) = true := (List.mem_filter.1 he).2
  rw [hkeep, Bool.true_or]

theorem underway_stageAfter {u : Traffic} (hu : Untouched v u)
    (hc : Course u w m.size m.toList) (key : String) (s : CachedState)
    (rest : List (String × CachedState)) : Underway v w m (Tick.stageAfter key s rest) := by
  unfold Tick.stageAfter
  split <;> exact ⟨u, hu, hc⟩

/-- **A step** of the tick keeps everything up. -/
theorem Within.step (h : Within v w m) : Within v (w.act .step) m := by
  have hmoved := w.moved .step
  have hfollows := hmoved.follows h.follows
  have hunderway := h.underway
  have hdue := h.due
  have hfinds : ∀ ticket found, w.tick.stage = .awaiting ticket →
      w.relay.store.answerTo ticket = .ended (.ok found) →
      Course w (w.act .step) found.size found.toList := fun _ _ => course_of_answer
  have hcourse : ∀ u, Course u w m.size m.toList → Course u (w.act .step) m.size m.toList :=
    fun u hc => hc.step
  generalize w.act .step = w' at hmoved hfollows hfinds hcourse ⊢
  cases hmoved with
  | rests => exact h
  | asks store stage offer =>
    rw [stage] at hunderway hdue
    have hready : w.relay.store.withTicket.Ready :=
      ⟨h.ready.running, h.ready.bounded.roomy, h.ready.bounded.fits⟩
    have hstore : store.due = w.relay.store.due := Store.due_of_accepted offer
    refine ⟨hfollows, hready.offer offer, hstore.trans hdue,
      ⟨hunderway.now, hunderway.delivery, hunderway.queue⟩, ?_, ?_⟩
    · show (w.record.entered ++ [Command.snapshot w.relay.store.tickets])[
        w.record.entered.length]? = _
      simp
    · -- what the question finds is what was due when it was accepted
      show replay ((w.record.entered ++ [Command.snapshot w.relay.store.tickets]).take
        w.record.entered.length) = m
      rw [List.take_left, ← h.follows.due_eq (by simp [h.ready.running]), hdue, remains_asking]
  | finds ticket states stage answer =>
    rw [stage] at hunderway hdue
    obtain ⟨huntouched, hplace, hfound⟩ := hunderway
    obtain rfl : m = states := by
      have hanswer := h.follows.answerTo_eq hplace
      rw [answer, hfound] at hanswer
      split_ifs at hanswer
      · exact (Except.ok.inj (Call.ended.inj hanswer)).symm
      · cases hanswer
    exact ⟨hfollows, h.ready, hdue.trans ((remains_asking m).trans (remains_found m).symm), w,
      huntouched, hfinds ticket m stage answer⟩
  | tries key s rest stage =>
    rw [stage] at hunderway hdue
    obtain ⟨u, huntouched, hu⟩ := hunderway
    obtain ⟨done, hsplit⟩ := hu.split_of_sending stage
    -- what has been tried is due until it is dropped
    exact ⟨hfollows, h.ready, hdue.trans (remains_stageAfter hsplit).symm,
      underway_stageAfter huntouched (hcourse u hu) key s rest⟩
  | drops key rest store stage offer =>
    rw [stage] at hunderway hdue
    obtain ⟨u, huntouched, hu⟩ := hunderway
    obtain ⟨done, s, hsplit, hone⟩ := hu.split_of_dropping stage
    -- a tombstone counts as soon as it is accepted, whenever the owner takes it
    have hstore : store.due = w.relay.store.due.erase key := Store.due_of_accepted offer
    refine ⟨hfollows, h.ready.offer offer, ?_, u, huntouched, hcourse u hu⟩
    rw [hdue, erase_remains hsplit hone] at hstore
    exact hstore
  | fails e stopped =>
    rw [h.ready.running] at stopped
    cases stopped

/-- **Quiet moves** keep everything up. -/
theorem Within.run (h : Within v w m) {moves : List Move} (hquiet : Quiet moves) :
    Within v (w.run moves) m := by
  refine List.foldlRecOn (motive := fun w => Within v w m) moves Traffic.act h ?_
  intro w hw move hmem
  rcases hquiet move hmem with rfl | rfl
  · exact hw.step
  · exact hw.take

/-! ### A whole tick -/

/-- The events that stand for some states at some time, by ascending key. -/
def told (m : States) (now : Int64) : List Event :=
  m.toList.map fun e => e.2.outgoing now

/-- No tick is under way, and the owner is at work. -/
structure Idle (v : Traffic) : Prop where
  follows : Follows v.record.entered v.applied v.relay.store
  ready : v.relay.store.Ready
  ended : v.tick.result ≠ .waiting

/-- Since `v` some events have been sent, the states that are due are now `m`, and no tick is under
way. -/
structure After (v w : Traffic) (m : States) (sent : List Event) : Prop where
  idle : w.Idle
  due : w.relay.store.due = m
  delivery : w.relay.delivery = v.relay.delivery
  queue : w.relay.queue =
    (Delivery.sendAll (sent.map fun e => (v.relay.delivery, e)) v.relay.queue).2

/-- **At the end** of a tick everything that it has found has been tried and counted. -/
theorem Within.gone (h : Within v w m) (hended : w.tick.result ≠ .waiting) :
    w.tick.stage = .sending [] ∧
      ∃ u, Untouched v u ∧ Gone u w m.size m.toList (oneShots m.toList) := by
  have hunderway := h.underway
  cases hstage : w.tick.stage with
  | asking => exact absurd (by simp [Tick.result, hstage]) hended
  | awaiting ticket => exact absurd (by simp [Tick.result, hstage]) hended
  | dropping key rest => exact absurd (by simp [Tick.result, hstage]) hended
  | failed e =>
    rw [hstage] at hunderway
    obtain ⟨u, -, hcourse⟩ := hunderway
    cases hcourse with
    | sending done rest split stage gone => simp [hstage] at stage
    | dropping done key s rest split oneShot stage gone => simp [hstage] at stage
    | failed done key s rest split oneShot stage stopped gone =>
      rw [h.ready.running] at stopped
      cases stopped
  | sending rest =>
    rw [hstage] at hunderway
    obtain ⟨u, huntouched, hcourse⟩ := hunderway
    cases hcourse with
    | dropping done key s rest' split oneShot stage gone => simp [hstage] at stage
    | failed done key s rest' split oneShot stage stopped gone => simp [hstage] at stage
    | sending done rest' split stage gone =>
      rw [hstage] at stage
      obtain rfl := Stage.sending.inj stage
      cases rest with
      | cons x rest => exact absurd (by simp [Tick.result, hstage]) hended
      | nil =>
        rw [List.append_nil] at split
        subst split
        exact ⟨rfl, u, huntouched, gone⟩

/-- What has been handed over is what stands for the states that were found. -/
theorem handed_of_untouched {u : Traffic} (hu : Untouched v u) :
    u.handed m.toList = Delivery.sendAll
      ((told m v.tick.now).map fun e => (v.relay.delivery, e)) v.relay.queue := by
  rw [handed, hu.now, hu.delivery, hu.queue, told, List.map_map]
  rfl

/-- **After a tick** everything has been sent, and what was to be dropped is gone. -/
theorem Within.after (h : Within v w m) (hended : w.tick.result ≠ .waiting) :
    After v w (kept m) (told m v.tick.now) := by
  obtain ⟨hstage, u, huntouched, hgone⟩ := h.gone hended
  have hdue := h.due
  rw [hstage] at hdue
  refine ⟨⟨h.follows, h.ready, hended⟩, hdue.trans (remains_nil m),
    hgone.delivery.trans huntouched.delivery, ?_⟩
  rw [hgone.queue, handed_of_untouched huntouched]

/-- The intake never holds more than it has room for. -/
theorem bounded_act (h : v.relay.store.Bounded) (move : Move) :
    (v.act move).relay.store.Bounded := by
  have hticket : v.relay.store.withTicket.Bounded := ⟨h.roomy, h.fits⟩
  have hmoved := v.moved move
  generalize v.act move = w at hmoved
  cases hmoved with
  | submits s store offer => exact h.offer offer
  | looks store offer => exact hticket.offer offer
  | starts => exact h.start
  | takes => exact h.take
  | cancels => exact h.cancel
  | asks store stage offer => exact hticket.offer offer
  | drops key rest store stage offer => exact h.offer offer
  | _ => exact h

/-- **Between two ticks** of any traffic whose owner is at work a tick finds everything that it
needs. -/
theorem idle_run (i : Intake) (queue : Queue) (delivery : Delivery) (moves : List Move)
    (running : ((ofIntake i queue delivery).run moves).relay.store.owner = .running)
    (ended : ((ofIntake i queue delivery).run moves).tick.result ≠ .waiting) :
    ((ofIntake i queue delivery).run moves).Idle where
  follows := (sound_run i queue delivery moves).follows
  ready := by
    have hempty : (ofIntake i queue delivery).relay.store.Bounded := Store.bounded_ofIntake i
    refine ⟨running, ?_⟩
    refine List.foldlRecOn (motive := fun v => v.relay.store.Bounded) moves Traffic.act hempty ?_
    intro v hv move _
    exact bounded_act hv move
  ended := ended

/-- A tick begins when the one before is over. -/
theorem Idle.act_begin (h : v.Idle) (now : Int64) :
    v.act (.begin now) = { v with tick := { now := now } } := by
  cases hresult : v.tick.result with
  | ended result => simp [act, hresult]
  | waiting => exact absurd hresult h.ended

theorem Idle.within (h : v.Idle) (now : Int64) :
    Within (v.act (.begin now)) (v.act (.begin now)) v.relay.store.due := by
  rw [h.act_begin]
  exact ⟨h.follows, h.ready, (remains_asking _).symm, rfl, rfl, rfl⟩

/-- **A tick that nobody disturbs** sends what stands for the states that are due, and leaves those
that are kept. -/
theorem Idle.after (h : v.Idle) {now : Int64} {moves : List Move} (hquiet : Quiet moves)
    (hended : (v.run (.begin now :: moves)).tick.result ≠ .waiting) :
    After v (v.run (.begin now :: moves)) (kept v.relay.store.due)
      (told v.relay.store.due now) := by
  have hafter := ((h.within now).run hquiet).after hended
  show After v ((v.act (.begin now)).run moves) _ _
  rw [h.act_begin now] at hafter ⊢
  exact ⟨hafter.idle, hafter.due, hafter.delivery, hafter.queue⟩

/-! ### The end of a tick -/

/-- The tick and the owner can bring the tick to its end. -/
def Ends (w : Traffic) : Prop :=
  ∃ moves, Quiet moves ∧ (w.run moves).tick.result ≠ .waiting

theorem ends_of_ended (hended : w.tick.result ≠ .waiting) : w.Ends :=
  ⟨[], by simp [Quiet], hended⟩

theorem Ends.of_act {move : Move} (hmove : move = .step ∨ move = .take)
    (h : (w.act move).Ends) : w.Ends := by
  obtain ⟨moves, hquiet, hended⟩ := h
  exact ⟨move :: moves, List.forall_mem_cons.2 ⟨hmove, hquiet⟩, hended⟩

/-- **A tick that has its states** comes nearer to its end each time the owner takes a command and
the tick makes a step. -/
theorem Within.ends_of_course (h : Within v w m) {u : Traffic} {cached : Nat}
    {states : List (String × CachedState)} (hc : Course u w cached states) : w.Ends := by
  -- on the steps that are left, since a tombstone in between takes one of its own
  induction hn : w.tick.remaining using Nat.strong_induction_on generalizing w with
  | h n ih =>
    by_cases hended : w.tick.result = .waiting
    · have hunmoved : Unmoved w (w.act .take) := unmoved_act w (by simp) (by simp)
      have hcourse := hc.unmoved hunmoved
      have hwaiting : (w.act .take).tick.result = .waiting := hended
      -- the owner has made room
      have hroom := h.ready.room
      have hlt : ((w.act .take).act .step).tick.remaining < n :=
        hn ▸ (remaining_step_lt hcourse hwaiting).resolve_right fun hfull =>
          Nat.not_le_of_lt hroom hfull.2
      refine .of_act (.inr rfl) (.of_act (.inl rfl) ?_)
      exact ih _ hlt h.take.step hcourse.step rfl
    · exact ends_of_ended hended

/-- **A tick that waits for its answer** gets it once the owner has done what waits. -/
theorem Within.ends_of_awaiting (h : Within v w m) {ticket : Nat}
    (stage : w.tick.stage = .awaiting ticket) : w.Ends := by
  -- on what waits, the question being part of it or answered
  induction hw : w.relay.store.waiting generalizing w with
  | nil =>
    have hunderway := h.underway
    rw [stage] at hunderway
    obtain ⟨-, hplace, -⟩ := hunderway
    have hanswer := h.follows.answerTo_eq hplace
    rw [if_pos] at hanswer
    · exact .of_act (.inl rfl) (h.step.ends_of_course (course_of_answer stage hanswer))
    · -- everything has been applied
      rw [h.follows.eq_length (by simp [h.ready.running]) hw]
      exact (List.getElem?_eq_some_iff.1 hplace).1
  | cons c rest ih =>
    have htake : (w.act .take).relay.store.waiting = rest := by
      show w.relay.store.take.waiting = rest
      simp [Store.take, h.ready.running, hw]
    exact .of_act (.inr rfl) (ih h.take stage htake)

/-- **Every tick** can be brought to its end. -/
theorem Within.ends (h : Within v w m) : w.Ends := by
  have hunderway := h.underway
  cases hstage : w.tick.stage with
  | asking =>
    -- when the owner has made room the question is accepted
    have hroom : (w.act .take).relay.store.waiting.length < (w.act .take).relay.store.capacity :=
      h.ready.room
    have hrunning := h.take.ready.running
    have htake : (w.act .take).tick.stage = .asking := hstage
    have hstage' : ((w.act .take).act .step).tick.stage =
        .awaiting (w.act .take).relay.store.tickets := by
      generalize w.act .take = w' at *
      simp [act, stepped, Tick.step, htake, Store.offer, Store.withTicket, hrunning, hroom]
    exact .of_act (.inr rfl) (.of_act (.inl rfl) (h.take.step.ends_of_awaiting hstage'))
  | awaiting ticket => exact h.ends_of_awaiting hstage
  | sending rest =>
    rw [hstage] at hunderway
    obtain ⟨u, -, hcourse⟩ := hunderway
    exact h.ends_of_course hcourse
  | dropping key rest =>
    rw [hstage] at hunderway
    obtain ⟨u, -, hcourse⟩ := hunderway
    exact h.ends_of_course hcourse
  | failed e => exact ends_of_ended (by simp [Tick.result, hstage])

end Traffic

end AlertRelay
