/-
AlertRelay/Proofs/Tick/Repeated.lean

Tick after tick.

When nobody else does anything, what ticks leave on the lists can be written down in advance.  The
first tick sends what stands for the states that are due when it begins (`block`), and drops the
one-shot states.  Every later tick finds what is kept.  So the events of many ticks are one block
after the other, the first one having more states to it (`emitted`).

Nothing is assumed about the pace of the owner, but that a tick gets to its end before the next one
begins (`Finishes`).  Such ticks can always be made, at any times (`Idle.exists_rounds`).
-/
import AlertRelay.Proofs.Delivery.Writes
import AlertRelay.Proofs.Tick.Undisturbed

namespace AlertRelay

/-! ### What is sent -/

/-- The complete events that stand for some states at some time, by descending key. -/
def block (m : States) (now : Int64) : List Event :=
  ((m.toList.map fun e => e.2.outgoing now).filter fun e => e.IsComplete).reverse

/-- The events of ticks at some times, the newest first. -/
def emitted (m : States) (now : Int64) (later : List Int64) : List Event :=
  later.reverse.flatMap (block (kept m)) ++ block m now

/-- **An event is complete** if its state names its entity and its check, and either is no longer
believed or has a state and a summary. -/
theorem CachedState.isComplete_outgoing_iff (s : CachedState) (now : Int64) :
    (s.outgoing now).IsComplete ↔
      s.event.entity ≠ "" ∧ s.event.check ≠ "" ∧
        ((s.staleFor now).isSome ∨ (s.event.state ≠ "" ∧ s.event.summary ≠ "")) := by
  have hcomplete : ∀ e : Event, e.IsComplete ↔
      e.entity ≠ "" ∧ e.check ≠ "" ∧ e.state ≠ "" ∧ e.summary ≠ "" := by
    intro e
    simp [Event.IsComplete, MissingField.order, MissingField.text]
  rw [hcomplete, outgoing]
  cases hstale : s.staleFor now with
  | none => simp
  | some age =>
    have hsummary : staleSummary age s.ttl ≠ "" := by
      intro he
      have hlength := congrArg String.length he
      simp [staleSummary, brokerName] at hlength
    simp [hsummary, staleState]


namespace Traffic

/-- What ticks send, and the blocks that come of it. -/
theorem filter_told (m : States) (now : Int64) (later : List Int64) :
    ((told m now ++ later.flatMap (told (kept m))).filter fun e => e.IsComplete).reverse =
      emitted m now later := by
  rw [List.filter_append, List.reverse_append, List.filter_flatMap, List.reverse_flatMap]
  rfl

/-! ### Ticks in a row -/

/-- A tick, and what happens until the next one begins. -/
structure Round where
  now : Int64
  moves : List Move

/-- The traffic after some ticks. -/
def rounds (v : Traffic) (rs : List Round) : Traffic :=
  rs.foldl (fun v r => v.run (.begin r.now :: r.moves)) v

/-- Nobody but the ticks and the owner does anything, and each tick gets to its end. -/
def Finishes (v : Traffic) : List Round → Prop
  | [] => True
  | r :: rs =>
    Quiet r.moves ∧ (v.run (.begin r.now :: r.moves)).tick.result ≠ .waiting ∧
      (v.run (.begin r.now :: r.moves)).Finishes rs

variable {u v w : Traffic} {m m' : States} {sent sent' : List Event}

theorem Idle.refl (h : v.Idle) : After v v v.relay.store.due [] :=
  ⟨h, rfl, rfl, rfl⟩

/-- What is sent first is sent before what is sent next. -/
theorem After.trans (h : After u v m sent) (h' : After v w m' sent') :
    After u w m' (sent ++ sent') where
  idle := h'.idle
  due := h'.due
  delivery := h'.delivery.trans h.delivery
  queue := by
    rw [h'.queue, h.queue, h.delivery, List.map_append, Delivery.sendAll_append]

/-- **Ticks that have nothing to drop** send the same states each time. -/
theorem Idle.after_rounds_of_kept (h : v.Idle) {rs : List Round} (hf : v.Finishes rs)
    (hkept : kept v.relay.store.due = v.relay.store.due) :
    After v (v.rounds rs) v.relay.store.due
      ((rs.map (·.now)).flatMap (told v.relay.store.due)) := by
  -- what is due is the same before each tick
  induction rs generalizing v with
  | nil => exact h.refl
  | cons r rs ih =>
    obtain ⟨hquiet, hended, hlater⟩ := hf
    have hfirst := h.after hquiet hended
    rw [hkept] at hfirst
    have hdue := hfirst.due
    have hnext := ih hfirst.idle hlater (by rw [hdue, hkept])
    rw [hdue] at hnext
    exact hfirst.trans hnext

/-- **Ticks in a row**: the first one drops what is not kept. -/
theorem Idle.after_rounds (h : v.Idle) {r : Round} {rs : List Round} (hf : v.Finishes (r :: rs)) :
    After v (v.rounds (r :: rs)) (kept v.relay.store.due)
      (told v.relay.store.due r.now ++
        (rs.map (·.now)).flatMap (told (kept v.relay.store.due))) := by
  obtain ⟨hquiet, hended, hlater⟩ := hf
  have hfirst := h.after hquiet hended
  have hdue := hfirst.due
  have hnext := hfirst.idle.after_rounds_of_kept hlater (by rw [hdue, kept_kept])
  rw [hdue] at hnext
  exact hfirst.trans hnext

/-- **Ticks at any times** can be made, each one to its end. -/
theorem Idle.exists_rounds (h : v.Idle) (times : List Int64) :
    ∃ rs : List Round, rs.map (·.now) = times ∧ v.Finishes rs := by
  induction times generalizing v with
  | nil => exact ⟨[], rfl, trivial⟩
  | cons now times ih =>
    obtain ⟨moves, hquiet, hended⟩ := (h.within now).ends
    obtain ⟨rs, htimes, hlater⟩ := ih (h.after hquiet hended).idle
    exact ⟨⟨now, moves⟩ :: rs, by rw [List.map_cons, htimes], hquiet, hended, hlater⟩

/-! ### What ticks leave behind -/

/-- What ticks at some times have left behind since `v`. -/
structure Ticked (v w : Traffic) (now : Int64) (later : List Int64) : Prop where
  events : w.relay.queue.events v.relay.delivery.name =
    emitted v.relay.store.due now later ++ v.relay.queue.events v.relay.delivery.name
  writes : w.relay.queue.writes =
    v.relay.queue.writes +
      (emitted v.relay.store.due now later).length *
        if 2 ≤ v.relay.delivery.version then 2 else 1
  /-- When the owner has done what waits. -/
  cached : w.relay.store.settle.cached = kept v.relay.store.due
  /-- And so at every moment of another tick. -/
  stays : ∀ next moves, Quiet moves →
    (w.run (.begin next :: moves)).relay.store.settle.cached = kept v.relay.store.due

theorem After.ticked {now : Int64} {later : List Int64} (hopen : v.relay.queue.Open)
    (h : After v w (kept v.relay.store.due)
      (told v.relay.store.due now ++ later.flatMap (told (kept v.relay.store.due)))) :
    Ticked v w now later where
  events := by rw [h.queue, Delivery.events_sendAll_same _ _ hopen, filter_told]
  writes := by
    rw [h.queue, Delivery.writes_sendAll_same _ _ hopen, ← filter_told, List.length_reverse]
  cached := by rw [Store.settle_cached h.idle.ready.running, h.due]
  stays := by
    intro next moves hquiet
    have hwithin := (h.idle.within next).run hquiet
    show ((w.act (.begin next)).run moves).relay.store.settle.cached = _
    rw [Store.settle_cached hwithin.ready.running, hwithin.due, h.due, remains_kept]

/-- **Ticks at any times**, when nobody else does anything, the owner is at work and the queue
refuses nothing.  They can be made, each one to its end, and whenever they are, the list of events
has grown by a block for each of them, the newest first.  The block of the first tick has what
stands, at the time of the tick, for the states that were due, and those of the others what stands
for the ones of them that are kept; an event that is not complete is left out.  The lists together
have grown by as many payloads, or twice as many for consumers that wait for marks.  What is cached
is what is kept, and it stays so. -/
theorem ticks_closed_form (i : Intake) (queue : Queue) (delivery : Delivery) (moves : List Move)
    (running : ((ofIntake i queue delivery).run moves).relay.store.owner = .running)
    (ended : ((ofIntake i queue delivery).run moves).tick.result ≠ .waiting)
    (hopen : ((ofIntake i queue delivery).run moves).relay.queue.Open) :
    (∀ times, ∃ rs : List Round,
      rs.map (·.now) = times ∧ ((ofIntake i queue delivery).run moves).Finishes rs) ∧
      (∀ rs now later, rs.map (·.now) = now :: later →
        ((ofIntake i queue delivery).run moves).Finishes rs →
          Ticked ((ofIntake i queue delivery).run moves)
            (((ofIntake i queue delivery).run moves).rounds rs) now later) ∧
      ∀ (s : CachedState) (now : Int64),
        ((s.outgoing now).IsComplete ↔
          s.event.entity ≠ "" ∧ s.event.check ≠ "" ∧
            ((s.staleFor now).isSome ∨ (s.event.state ≠ "" ∧ s.event.summary ≠ ""))) ∧
          ((s.staleFor now).isSome → (s.outgoing now).state = staleState) := by
  have hidle := idle_run i queue delivery moves running ended
  generalize (ofIntake i queue delivery).run moves = v at hidle hopen
  refine ⟨hidle.exists_rounds, fun rs now later htimes hf => ?_, fun s now =>
    ⟨s.isComplete_outgoing_iff now, fun hstale => ?_⟩⟩
  · cases rs with
    | nil => cases htimes
    | cons r rs =>
      obtain ⟨rfl, rfl⟩ := List.cons.inj htimes
      exact (hidle.after_rounds hf).ticked hopen
  · obtain ⟨age, hage⟩ := Option.isSome_iff_exists.1 hstale
    rw [CachedState.outgoing, hage]

/-- The job has never reported how it went. -/
def unheard : CachedState :=
  ⟨.service "web1" "backup" "" "" 1700000000, 300⟩

/-- A restart, a service that answers and a job wait for the owner. -/
def threeReported : Traffic :=
  (ofIntake {} {} {}).run [.start, .upsert restarted, .upsert answering, .upsert unheard]

/-- Three ticks: soon, after everything has become stale, and after the clock has been set back. -/
def clockSetBack : List Round :=
  [⟨1700000060, [.step, .take, .take, .take, .take, .step, .step, .step, .step, .step]⟩,
    ⟨1700000400, [.step, .take, .take, .step, .step, .step]⟩,
    ⟨1700000030, [.step, .take, .step, .step, .step]⟩]

theorem ticks_closed_form_clockSetBack :
    threeReported.relay.store.owner = .running ∧
      threeReported.tick.result ≠ .waiting ∧
      threeReported.relay.queue.Open ∧
      threeReported.Finishes clockSetBack ∧
      (threeReported.rounds clockSetBack).relay.queue.events "events" =
        [answering.outgoing 1700000030,
          answering.outgoing 1700000400, unheard.outgoing 1700000400,
          answering.outgoing 1700000060, restarted.outgoing 1700000060] ∧
      (threeReported.rounds clockSetBack).relay.queue.writes = 10 ∧
      (threeReported.rounds clockSetBack).relay.store.settle.cached =
        .ofList [(unheard.key, unheard), (answering.key, answering)] := by
  have hopen : threeReported.relay.queue.Open := fun _ _ _ => rfl
  have hquiet : ∀ r ∈ clockSetBack, Quiet r.moves := by
    unfold Quiet
    decide
  have hended : ∀ report : TickReport, Call.ended (.ok report) ≠ .waiting := nofun
  have hfinishes : threeReported.Finishes clockSetBack :=
    ⟨hquiet _ (.head _), hended _, hquiet _ (.tail _ (.head _)), hended _,
      hquiet _ (.tail _ (.tail _ (.head _))), hended _, trivial⟩
  have hidle : threeReported.tick.result ≠ .waiting := hended {}
  have hticked :=
    (ticks_closed_form {} {} {} _ rfl hidle hopen).2.1 clockSetBack _ _ rfl hfinishes
  exact ⟨rfl, hidle, hopen, hfinishes, hticked.events, hticked.writes, hticked.cached⟩

end Traffic

end AlertRelay
