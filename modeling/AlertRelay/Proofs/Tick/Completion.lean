/-
AlertRelay/Proofs/Tick/Completion.lean

How far a tick gets.

A tick that has found its states goes over them by ascending key.  Whatever others do meanwhile,
the states that it has tried are the first so many of them, each tried once, the queue is what
their events have made of it, and the report counts what became of them (`Gone`).  What is refused
does not hold it up.

There is one place where it can end before its states do.  A one-shot state is dropped after it has
been tried, and if the owner has stopped by then nobody takes the tombstone: the tick gives up, the
states after this one are not tried, and nobody gets its report.  So a tick is on one of three
courses (`Course`): between two states, at the tombstone of one, or given up at one.

A step of a tick brings it nearer to its end, unless it waits for room in the intake of an owner
that has not stopped (`remaining_step_lt`).
-/
import AlertRelay.Proofs.Delivery.Lists
import AlertRelay.Proofs.Tick.Traffic

namespace AlertRelay

namespace Traffic

/-! ### What a tick has to show -/

/-- What becomes of the events that stand for some states, and of the queue. -/
def handed (v : Traffic) (done : List (String × CachedState)) :
    List (Except SendFault Nat) × Queue :=
  Delivery.sendAll (done.map fun e => (v.relay.delivery, e.2.outgoing v.tick.now)) v.relay.queue

/-- The report about states that have been tried, so many of which have been dropped. -/
def account (v : Traffic) (cached : Nat) (done : List (String × CachedState)) (dropped : Nat) :
    TickReport where
  cached := cached
  sent := (v.handed done).1.countP fun result => result.isOk
  stale := done.countP fun e => (e.2.staleFor v.tick.now).isSome
  failed := (v.handed done).1.countP fun result => !result.isOk
  tombstoned := dropped

/-- How many of some states are one-shot states. -/
def oneShots (done : List (String × CachedState)) : Nat :=
  done.countP fun e => e.2.isOneShot

/-- One more event is handed over. -/
theorem handed_append (v : Traffic) (done : List (String × CachedState))
    (e : String × CachedState) :
    v.handed (done ++ [e]) =
      ((v.handed done).1 ++
          [(v.relay.delivery.send (e.2.outgoing v.tick.now) (v.handed done).2).1],
        (v.relay.delivery.send (e.2.outgoing v.tick.now) (v.handed done).2).2) := by
  rw [handed, List.map_append, Delivery.sendAll_append]
  rfl

/-- One more state is counted. -/
theorem account_append (v : Traffic) (cached : Nat) (done : List (String × CachedState))
    (e : String × CachedState) (dropped : Nat) :
    v.account cached (done ++ [e]) dropped =
      Tick.counted (v.account cached done dropped) (e.2.staleFor v.tick.now).isSome
        (v.relay.delivery.send (e.2.outgoing v.tick.now) (v.handed done).2).1.isOk := by
  simp only [account, handed_append, List.countP_append, List.countP_singleton, Tick.counted]
  cases (v.relay.delivery.send (e.2.outgoing v.tick.now) (v.handed done).2).1.isOk <;>
    cases (e.2.staleFor v.tick.now).isSome <;> rfl

/-- Since `v` some states have been tried, so many of which have been dropped. -/
structure Gone (v w : Traffic) (cached : Nat) (done : List (String × CachedState))
    (dropped : Nat) : Prop where
  now : w.tick.now = v.tick.now
  delivery : w.relay.delivery = v.relay.delivery
  asked : w.record.asked = v.record.asked
  attempts : w.record.attempts =
    v.record.attempts ++ done.map fun e => ⟨v.record.asked, e.2, v.tick.now⟩
  queue : w.relay.queue = (v.handed done).2
  report : w.tick.report = v.account cached done dropped

/-- How a tick stands that had these states left in `v`. -/
inductive Course (v w : Traffic) (cached : Nat) (states : List (String × CachedState)) : Prop where
  /-- It is between two states, or at the end. -/
  | sending (done rest : List (String × CachedState)) (split : states = done ++ rest)
      (stage : w.tick.stage = .sending rest) (gone : Gone v w cached done (oneShots done))
  /-- It has tried a one-shot state and not dropped it yet. -/
  | dropping (done : List (String × CachedState)) (key : String) (s : CachedState)
      (rest : List (String × CachedState)) (split : states = done ++ (key, s) :: rest)
      (oneShot : s.isOneShot = true) (stage : w.tick.stage = .dropping key rest)
      (gone : Gone v w cached (done ++ [(key, s)]) (oneShots done))
  /-- It has tried a one-shot state that nobody drops any more. -/
  | failed (done : List (String × CachedState)) (key : String) (s : CachedState)
      (rest : List (String × CachedState)) (split : states = done ++ (key, s) :: rest)
      (oneShot : s.isOneShot = true) (stage : w.tick.stage = .failed .closed)
      (stopped : w.relay.store.owner = .stopped)
      (gone : Gone v w cached (done ++ [(key, s)]) (oneShots done))

variable {v w : Traffic} {cached : Nat} {states : List (String × CachedState)}

/-! ### Moves of others -/

/-- Nothing has changed for the tick, and an owner that has stopped has not started again. -/
structure Unmoved (w w' : Traffic) : Prop where
  tick : w'.tick = w.tick
  delivery : w'.relay.delivery = w.relay.delivery
  queue : w'.relay.queue = w.relay.queue
  asked : w'.record.asked = w.record.asked
  attempts : w'.record.attempts = w.record.attempts
  stopped : w.relay.store.owner = .stopped → w'.relay.store.owner = .stopped

/-- **Others** do not touch a tick. -/
theorem unmoved_act (w : Traffic) {move : Move} (hstep : move ≠ .step)
    (hbegin : ∀ now, move ≠ .begin now) : Unmoved w (w.act move) := by
  have hmoved := w.moved move
  generalize w.act move = w' at hmoved
  cases hmoved with
  | rests => exact ⟨rfl, rfl, rfl, rfl, rfl, id⟩
  | submits s store offer =>
    obtain ⟨-, -, rfl⟩ := Store.offer_eq_accepted_iff.1 offer
    exact ⟨rfl, rfl, rfl, rfl, rfl, id⟩
  | looks store offer =>
    obtain ⟨-, -, rfl⟩ := Store.offer_eq_accepted_iff.1 offer
    exact ⟨rfl, rfl, rfl, rfl, rfl, id⟩
  | starts =>
    exact ⟨rfl, rfl, rfl, rfl, rfl, (Store.start_owner_eq_stopped_iff w.relay.store).2⟩
  | takes => exact ⟨rfl, rfl, rfl, rfl, rfl, (Store.take_owner w.relay.store).trans⟩
  | cancels => exact ⟨rfl, rfl, rfl, rfl, rfl, fun _ => rfl⟩
  | begins now => exact absurd rfl (hbegin now)
  | _ => exact absurd rfl hstep

theorem Gone.unmoved {w' : Traffic} {done : List (String × CachedState)} {dropped : Nat}
    (hg : Gone v w cached done dropped) (hu : Unmoved w w') : Gone v w' cached done dropped where
  now := by rw [hu.tick, hg.now]
  delivery := hu.delivery.trans hg.delivery
  asked := hu.asked.trans hg.asked
  attempts := hu.attempts.trans hg.attempts
  queue := hu.queue.trans hg.queue
  report := by rw [hu.tick, hg.report]

theorem Course.unmoved {w' : Traffic} (hc : Course v w cached states) (hu : Unmoved w w') :
    Course v w' cached states := by
  cases hc with
  | sending done rest split stage gone =>
    exact .sending done rest split (by rw [hu.tick, stage]) (gone.unmoved hu)
  | dropping done key s rest split oneShot stage gone =>
    exact .dropping done key s rest split oneShot (by rw [hu.tick, stage]) (gone.unmoved hu)
  | failed done key s rest split oneShot stage stopped gone =>
    exact .failed done key s rest split oneShot (by rw [hu.tick, stage]) (hu.stopped stopped)
      (gone.unmoved hu)

/-! ### Steps of the tick -/

/-- A tick tries the first state that is left. -/
theorem step_sending {key : String} {s : CachedState} {rest : List (String × CachedState)}
    (stage : w.tick.stage = .sending ((key, s) :: rest)) :
    w.act .step =
      { w with
        tick := { w.tick with
          stage := Tick.stageAfter key s rest
          report := (w.tick.attempt s w.relay).1 }
        relay := (w.tick.attempt s w.relay).2
        record := w.record.attempt s w.tick.now } := by
  simp only [act, stepped, Tick.step, stage]
  rfl

/-- A tick that has nothing to do does nothing. -/
theorem step_of_ended {result : Except StoreError TickReport}
    (hended : w.tick.result = .ended result) : w.act .step = w := by
  obtain ⟨relay, ⟨now, stage, report⟩, applied, record⟩ := w
  unfold Tick.result at hended
  split at hended
  · rename_i hs
    obtain rfl : stage = .sending [] := hs
    rfl
  · rename_i e hs
    obtain rfl : stage = .failed e := hs
    rfl
  · cases hended

/-- **Trying** a state keeps a tick on its course. -/
theorem Gone.attempt {done : List (String × CachedState)} {dropped : Nat}
    (hg : Gone v w cached done dropped) {key : String} {s : CachedState}
    {rest : List (String × CachedState)}
    (stage : w.tick.stage = .sending ((key, s) :: rest)) :
    Gone v (w.act .step) cached (done ++ [(key, s)]) dropped := by
  rw [step_sending stage]
  refine ⟨hg.now, hg.delivery, hg.asked, ?_, ?_, ?_⟩
  · show w.record.attempts ++ [(⟨w.record.asked, s, w.tick.now⟩ : Attempt)] = _
    rw [hg.attempts, hg.asked, hg.now, List.map_append, List.append_assoc]
    rfl
  · show (w.relay.delivery.send (s.outgoing w.tick.now) w.relay.queue).2 = _
    rw [hg.delivery, hg.now, hg.queue, handed_append]
  · show Tick.counted w.tick.report (s.staleFor w.tick.now).isSome
      (w.relay.delivery.send (s.outgoing w.tick.now) w.relay.queue).1.isOk = _
    rw [hg.report, hg.delivery, hg.now, hg.queue, account_append]

theorem oneShots_append (done : List (String × CachedState)) (e : String × CachedState) :
    oneShots (done ++ [e]) = oneShots done + if e.2.isOneShot then 1 else 0 := by
  rw [oneShots, List.countP_append, List.countP_singleton]
  rfl

/-- **A step** keeps a tick on its course. -/
theorem Course.step (hc : Course v w cached states) : Course v (w.act .step) cached states := by
  cases hc with
  | sending done rest split stage gone =>
    cases rest with
    | nil =>
      have hended : w.tick.result = .ended (.ok w.tick.report) := by simp [Tick.result, stage]
      rw [step_of_ended hended]
      exact .sending done [] split stage gone
    | cons x rest =>
      obtain ⟨key, s⟩ := x
      have hgone := gone.attempt stage
      have hstage : (w.act .step).tick.stage = Tick.stageAfter key s rest := by
        rw [step_sending stage]
      by_cases hone : s.isOneShot = true
      · refine .dropping done key s rest split hone ?_ hgone
        rw [hstage, Tick.stageAfter, if_pos hone]
      · refine .sending (done ++ [(key, s)]) rest ?_ ?_ ?_
        · rw [split, List.append_assoc]
          rfl
        · rw [hstage, Tick.stageAfter, if_neg hone]
        · rw [oneShots_append, if_neg hone]
          exact hgone
  | dropping done key s rest split oneShot stage gone =>
    -- what becomes of the tombstone decides
    cases ho : w.relay.store.offer (.tombstone key) with
    | accepted store =>
      have hstep : w.act .step =
          { w with
            tick := { w.tick with
              stage := .sending rest
              report := { w.tick.report with tombstoned := w.tick.report.tombstoned + 1 } }
            relay := { w.relay with store := store }
            record := w.record.drop key } := by
        simp only [act, stepped, Tick.step, stage, ho]
        rfl
      rw [hstep]
      refine .sending (done ++ [(key, s)]) rest ?_ rfl ?_
      · rw [split, List.append_assoc]
        rfl
      · refine ⟨gone.now, gone.delivery, gone.asked, gone.attempts, gone.queue, ?_⟩
        show { w.tick.report with tombstoned := w.tick.report.tombstoned + 1 } = _
        rw [gone.report, oneShots_append, if_pos oneShot]
        rfl
    | full =>
      have hstep : w.act .step = w := by
        obtain ⟨relay, ⟨now, stage', report⟩, applied, record⟩ := w
        obtain rfl : stage' = .dropping key rest := stage
        simp only [act, stepped, Tick.step, ho]
        rfl
      rw [hstep]
      exact .dropping done key s rest split oneShot stage gone
    | closed =>
      have hstep : w.act .step = { w with tick := { w.tick with stage := .failed .closed } } := by
        simp only [act, stepped, Tick.step, stage, ho]
        rfl
      rw [hstep]
      refine .failed done key s rest split oneShot rfl (Store.offer_eq_closed_iff.1 ho) ?_
      exact ⟨gone.now, gone.delivery, gone.asked, gone.attempts, gone.queue, gone.report⟩
  | failed done key s rest split oneShot stage stopped gone =>
    have hended : w.tick.result = .ended (.error .closed) := by simp [Tick.result, stage]
    rw [step_of_ended hended]
    exact .failed done key s rest split oneShot stage stopped gone

/-! ### Runs -/

/-- **The answer** sets a tick on its course. -/
theorem course_of_answer {ticket : Nat} {found : States} (stage : v.tick.stage = .awaiting ticket)
    (answer : v.relay.store.answerTo ticket = .ended (.ok found)) :
    Course v (v.act .step) found.size found.toList := by
  have hstep : v.act .step =
      { v with
        tick := { v.tick with
          stage := .sending found.toList
          report := { cached := found.size } } } := by
    simp only [act, stepped, Tick.step, stage, answer]
    rfl
  rw [hstep]
  -- nothing has been tried yet
  exact .sending [] found.toList rfl rfl ⟨rfl, rfl, rfl, (List.append_nil _).symm, rfl, rfl⟩

/-- **Every run** keeps a tick on its course, until the next one begins. -/
theorem Course.run (hc : Course v w cached states) {moves : List Move}
    (hmoves : ∀ now, Move.begin now ∉ moves) : Course v (w.run moves) cached states := by
  refine List.foldlRecOn (motive := fun w => Course v w cached states) moves Traffic.act hc ?_
  intro u hu move hmem
  by_cases hstep : move = .step
  · rw [hstep]
    exact hu.step
  · exact hu.unmoved (unmoved_act u hstep fun now he => hmoves now (he ▸ hmem))

/-- **A step** brings a tick nearer to its end, unless it waits for room in an intake whose owner
has not stopped. -/
theorem remaining_step_lt (hc : Course v w cached states) (hwaiting : w.tick.result = .waiting) :
    (w.act .step).tick.remaining < w.tick.remaining ∨
      (w.relay.store.owner ≠ .stopped ∧
        w.relay.store.capacity ≤ w.relay.store.waiting.length) := by
  cases hc with
  | sending done rest split stage gone =>
    left
    cases rest with
    | nil => simp [Tick.result, stage] at hwaiting
    | cons x rest =>
      rw [step_sending stage]
      simp only [Tick.remaining, stage, Tick.stageAfter, List.length_cons]
      split_ifs
      · show 2 * rest.length + 1 < _
        omega
      · show 2 * rest.length < _
        omega
  | dropping done key s rest split oneShot stage gone =>
    cases ho : w.relay.store.offer (.tombstone key) with
    | accepted store =>
      left
      simp [act, stepped, Tick.step, Tick.remaining, stage, ho]
    | full =>
      right
      unfold Store.offer at ho
      split_ifs at ho with hstop hroom
      exact ⟨hstop, Nat.le_of_not_lt hroom⟩
    | closed =>
      left
      simp [act, stepped, Tick.step, Tick.remaining, stage, ho]
  | failed done key s rest split oneShot stage stopped gone =>
    simp [Tick.result, stage] at hwaiting

/-- A tick gives up at a tombstone exactly if the owner has stopped. -/
theorem step_dropping_eq_failed_iff {key : String} {rest : List (String × CachedState)}
    (stage : w.tick.stage = .dropping key rest) :
    (w.act .step).tick.stage = .failed .closed ↔ w.relay.store.owner = .stopped := by
  rw [← Store.offer_eq_closed_iff (c := .tombstone key)]
  cases ho : w.relay.store.offer (.tombstone key) <;>
    simp [act, stepped, Tick.step, stage, ho]

/-- Each state that has been tried is counted as sent or as failed. -/
theorem account_sent_add_failed (v : Traffic) (cached : Nat)
    (done : List (String × CachedState)) (dropped : Nat) :
    (v.account cached done dropped).sent + (v.account cached done dropped).failed =
      done.length := by
  have hlength : (v.handed done).1.length = done.length := by
    rw [handed, Delivery.length_sendAll, List.length_map]
  have hcount := (v.handed done).1.length_eq_countP_add_countP fun result => result.isOk
  rw [← hlength, hcount]
  simp [account]

/-- **What a tick has tried** at any time after it has found its states: the first so many of them,
by ascending key and each once.  If it ends well these are all, and its report counts each.  If it
ends badly the owner has stopped, and the last state that was tried is a one-shot state; this comes
about exactly if the owner has stopped when the state is to be dropped.  Until it ends each of its
steps brings the end nearer, unless it waits for room in the intake of an owner that has not
stopped. -/
theorem tried_in_order (v : Traffic) {ticket : Nat} {found : States}
    (stage : v.tick.stage = .awaiting ticket)
    (answer : v.relay.store.answerTo ticket = .ended (.ok found)) (moves : List Move)
    (hmoves : ∀ now, Move.begin now ∉ moves) :
    Course v (v.run (.step :: moves)) found.size found.toList ∧
      (match (v.run (.step :: moves)).tick.result with
        | .ended (.ok report) =>
          Gone v (v.run (.step :: moves)) found.size found.toList (oneShots found.toList) ∧
            report = v.account found.size found.toList (oneShots found.toList) ∧
            report.sent + report.failed = found.size
        | .ended (.error e) =>
          e = .closed ∧ (v.run (.step :: moves)).relay.store.owner = .stopped ∧
            ∃ before key s rest, found.toList = before ++ (key, s) :: rest ∧
              s.isOneShot = true ∧
              Gone v (v.run (.step :: moves)) found.size (before ++ [(key, s)]) (oneShots before)
        | .waiting =>
          ((v.run (.step :: moves)).act .step).tick.remaining <
              (v.run (.step :: moves)).tick.remaining ∨
            ((v.run (.step :: moves)).relay.store.owner ≠ .stopped ∧
              (v.run (.step :: moves)).relay.store.capacity ≤
                (v.run (.step :: moves)).relay.store.waiting.length)) ∧
      ∀ key rest, (v.run (.step :: moves)).tick.stage = .dropping key rest →
        (((v.run (.step :: moves)).act .step).tick.stage = .failed .closed ↔
          (v.run (.step :: moves)).relay.store.owner = .stopped) := by
  have hcourse : Course v (v.run (.step :: moves)) found.size found.toList :=
    (course_of_answer stage answer).run hmoves
  generalize v.run (.step :: moves) = w at hcourse ⊢
  refine ⟨hcourse, ?_, fun key rest hstage => step_dropping_eq_failed_iff hstage⟩
  have hprogress := remaining_step_lt hcourse
  cases hcourse with
  | sending done rest split hstage gone =>
    cases rest with
    | nil =>
      have hresult : w.tick.result = .ended (.ok w.tick.report) := by simp [Tick.result, hstage]
      obtain rfl : done = found.toList := by rw [split, List.append_nil]
      rw [hresult]
      refine ⟨gone, gone.report, ?_⟩
      rw [gone.report, account_sent_add_failed, KeyedMap.size]
    | cons x rest =>
      have hresult : w.tick.result = .waiting := by simp [Tick.result, hstage]
      rw [hresult]
      exact hprogress hresult
  | dropping done key s rest split oneShot hstage gone =>
    have hresult : w.tick.result = .waiting := by simp [Tick.result, hstage]
    rw [hresult]
    exact hprogress hresult
  | failed done key s rest split oneShot hstage stopped gone =>
    have hresult : w.tick.result = .ended (.error .closed) := by simp [Tick.result, hstage]
    rw [hresult]
    exact ⟨rfl, stopped, done, key, s, rest, split, oneShot, gone⟩

/-! ### A tick that gives up -/

/-- A service has been restarted; the state is sent once. -/
def restarted : CachedState :=
  ⟨.service "web1" "boot" "ok" "restarted" 1700000000, -1⟩

/-- The service answers; the state is sent again and again. -/
def answering : CachedState :=
  ⟨.service "web1" "ping" "ok" "answering" 1700000000, 300⟩

/-- A tick has asked for both states, and the owner has answered. -/
def bothFound : Traffic :=
  (ofIntake {} {} {}).run
    [.start, .upsert restarted, .upsert answering, .begin 1700000060, .step, .take, .take, .take]

/-- The owner stops, and the tick tries the first state and wants to drop it. -/
def stoppedMidway : List Move :=
  [.cancel, .step, .step]

theorem tried_in_order_stoppedMidway :
    bothFound.tick.stage = .awaiting 0 ∧
      ∃ before key s rest,
        [(restarted.key, restarted), (answering.key, answering)] = before ++ (key, s) :: rest ∧
          s.isOneShot = true ∧
          Gone bothFound (bothFound.run (.step :: stoppedMidway)) 2 (before ++ [(key, s)])
            (oneShots before) := by
  have hstage : bothFound.tick.stage = .awaiting 0 := rfl
  have hanswer : bothFound.relay.store.answerTo 0 =
      .ended (.ok (.ofList [(restarted.key, restarted), (answering.key, answering)])) := rfl
  have hmoves : ∀ now, Move.begin now ∉ stoppedMidway := by
    intro now hmem
    simp [stoppedMidway] at hmem
  exact ⟨hstage, (tried_in_order bothFound hstage hanswer stoppedMidway hmoves).2.1.2.2⟩

/-- **A tick that does not complete**: it has found two states, the owner stops, and it ends after
the first one. -/
theorem second_state_never_tried :
    bothFound.relay.store.answerTo 0 =
        .ended (.ok (.ofList [(restarted.key, restarted), (answering.key, answering)])) ∧
      (bothFound.run (.step :: stoppedMidway)).tick.result = .ended (.error .closed) ∧
      (bothFound.run (.step :: stoppedMidway)).record.attempts =
        [⟨2, restarted, 1700000060⟩] ∧
      (bothFound.run (.step :: stoppedMidway)).relay.queue.list "events" =
        [utf8 (restarted.outgoing 1700000060).json] :=
  ⟨rfl, rfl, rfl, rfl⟩

end Traffic

end AlertRelay
