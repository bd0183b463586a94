/-
AlertRelay/Proofs/Tick/Outcome.lean

What one tick comes to.

A tick that nobody disturbs can be brought to its end, and then it ends well: it has handed over
what stands for each of the states that were due when it began, each once and by ascending key, and
its report counts what became of them (`Outcome`).  The owner may be at any pace, and the queue may
refuse whatever it likes.

What becomes of one event may change what becomes of the next, if the queue remembers.  If it looks
only at lists and payloads, no failure leaks from one state to another: the events that are sent are
those that get through on their own (`Outcome.sent_of_steady`).
-/
import AlertRelay.Proofs.Delivery.Steady
import AlertRelay.Proofs.Text.ByteOrder
import AlertRelay.Proofs.Tick.Repeated

namespace AlertRelay

/-! ### The event that goes out -/

/-- What goes out for a state at some time: its event at that time, with another state and summary
exactly if it is no longer believed. -/
structure CachedState.StandsFor (s : CachedState) (now : Int64) (e : Event) : Prop where
  time : e.time = now
  entity : e.entity = s.event.entity
  check : e.check = s.event.check
  type : e.type = s.event.type
  details : e.details = s.event.details
  tags : e.tags = s.event.tags
  believed : ¬ (0 ≤ s.ttl ∧ s.ttl < elapsed s.event.time now) →
    e.state = s.event.state ∧ e.summary = s.event.summary
  stale : 0 ≤ s.ttl ∧ s.ttl < elapsed s.event.time now →
    e.state = staleState ∧
      e.summary = CachedState.staleSummary (elapsed s.event.time now) s.ttl

theorem CachedState.standsFor_outgoing (s : CachedState) (now : Int64) :
    s.StandsFor now (s.outgoing now) := by
  by_cases hstale : 0 ≤ s.ttl ∧ s.ttl < elapsed s.event.time now
  · have hout : s.outgoing now =
        { s.event with
          time := now
          state := staleState
          summary := staleSummary (elapsed s.event.time now) s.ttl } := by
      simp only [outgoing, staleFor, if_pos hstale]
    rw [hout]
    exact ⟨rfl, rfl, rfl, rfl, rfl, rfl, fun h => absurd hstale h, fun _ => ⟨rfl, rfl⟩⟩
  · have hout : s.outgoing now = { s.event with time := now } := by
      simp only [outgoing, staleFor, if_neg hstale]
    rw [hout]
    exact ⟨rfl, rfl, rfl, rfl, rfl, rfl, fun _ => ⟨rfl, rfl⟩, fun h => absurd h hstale⟩

theorem CachedState.isSome_staleFor (s : CachedState) (now : Int64) :
    (s.staleFor now).isSome = decide (0 ≤ s.ttl ∧ s.ttl < elapsed s.event.time now) := by
  unfold staleFor
  by_cases hstale : 0 ≤ s.ttl ∧ s.ttl < elapsed s.event.time now <;> simp [hstale]

namespace Traffic

variable {v w : Traffic} {m : States}

/-! ### The end of a tick -/

/-- What becomes of the events that stand for some states at some time, and of the queue. -/
def fates (v : Traffic) (m : States) (now : Int64) : List (Except SendFault Nat) × Queue :=
  Delivery.sendAll ((told m now).map fun e => (v.relay.delivery, e)) v.relay.queue

/-- A tick that began in `v` at some time has ended with a report. -/
structure Outcome (v w : Traffic) (now : Int64) (report : TickReport) : Prop where
  ended : w.tick.result = .ended (.ok report)
  /-- What stands for each state has been handed over, by ascending key. -/
  queue : w.relay.queue = (v.fates v.relay.store.due now).2
  cached : report.cached = v.relay.store.due.size
  sent : report.sent = (v.fates v.relay.store.due now).1.countP fun result => result.isOk
  /-- Each state is counted as sent or as failed. -/
  tried : report.sent + report.failed = report.cached
  /-- Whether it was sent does not matter. -/
  stale : report.stale = v.relay.store.due.toList.countP fun e =>
    decide (0 ≤ e.2.ttl ∧ e.2.ttl < elapsed e.2.event.time now)
  tombstoned : report.tombstoned = v.relay.store.due.toList.countP fun e => decide (e.2.ttl < 0)
  /-- When the owner has done what waits. -/
  left : w.relay.store.settle.cached = v.relay.store.due.filter fun _ s => decide (0 ≤ s.ttl)

/-- **A tick that has ended** has come to what can be said in advance. -/
theorem Idle.outcome (h : v.Idle) {now : Int64} {moves : List Move} (hquiet : Quiet moves)
    (hended : (v.run (.begin now :: moves)).tick.result ≠ .waiting) :
    ∃ report, Outcome v (v.run (.begin now :: moves)) now report := by
  have hwithin := (h.within now).run hquiet
  have hbegin : v.run (.begin now :: moves) = (v.act (.begin now)).run moves := rfl
  rw [hbegin] at hended ⊢
  generalize (v.act (.begin now)).run moves = w at hwithin hended ⊢
  have hafter := hwithin.after hended
  obtain ⟨hstage, u, huntouched, hgone⟩ := hwithin.gone hended
  have hhanded := handed_of_untouched (m := v.relay.store.due) huntouched
  rw [h.act_begin now] at hafter huntouched hhanded
  have hnow : u.tick.now = now := huntouched.now
  have hreport := hgone.report
  have htried := account_sent_add_failed u v.relay.store.due.size v.relay.store.due.toList
    (oneShots v.relay.store.due.toList)
  refine ⟨w.tick.report, ?_, hafter.queue, ?_, ?_, ?_, ?_, ?_, ?_⟩
  · exact Tick.result_of_sending_nil hstage
  · rw [hreport]
    rfl
  · rw [hreport]
    show (u.handed v.relay.store.due.toList).1.countP _ = _
    rw [hhanded]
    rfl
  · rw [hreport, htried]
    rfl
  · rw [hreport]
    show v.relay.store.due.toList.countP _ = _
    rw [hnow]
    apply List.countP_congr
    intro e _
    rw [e.2.isSome_staleFor]
  · rw [hreport]
    rfl
  · rw [Store.settle_cached hafter.idle.ready.running, hafter.due]
    rfl

/-- **No failure leaks** from one state to another, if the queue looks only at lists and
payloads. -/
theorem Outcome.sent_of_steady {now : Int64} {report : TickReport}
    (h : Outcome v w now report) (hsteady : v.relay.queue.Steady) :
    report.sent = (told v.relay.store.due now).countP fun e =>
      decide (v.relay.delivery.Passes e v.relay.queue) := by
  have hfates := Delivery.isOk_sendAll
    ((told v.relay.store.due now).map fun e => (v.relay.delivery, e)) hsteady
  have hcount : ∀ l : List (Except SendFault Nat), (l.countP fun result => result.isOk) =
      (l.map fun result => result.isOk).countP id := by
    intro l
    rw [List.countP_map]
    rfl
  rw [h.sent, hcount, fates, hfates, List.map_map, List.countP_map]
  rfl

/-- **One tick**, when nobody else does anything and the owner is at work.  It can be brought to its
end, and whenever it has ended it has handed over, by ascending bytes of the keys, what stands for
each state that was due when it began, and nothing else; its report counts the states, those sent,
those refused, the stale and the one-shot ones, and only the one-shot states are gone.  If the queue
looks only at lists and payloads, those are sent whose events get through on their own. -/
theorem tick_ends_with_outcome (i : Intake) (queue : Queue) (delivery : Delivery)
    (moves : List Move)
    (running : ((ofIntake i queue delivery).run moves).relay.store.owner = .running)
    (ended : ((ofIntake i queue delivery).run moves).tick.result ≠ .waiting) (now : Int64) :
    (∃ quiet, Quiet quiet ∧
      (((ofIntake i queue delivery).run moves).run (.begin now :: quiet)).tick.result ≠
        .waiting) ∧
      (∀ quiet, Quiet quiet →
        (((ofIntake i queue delivery).run moves).run (.begin now :: quiet)).tick.result ≠
          .waiting →
        ∃ report, Outcome ((ofIntake i queue delivery).run moves)
            (((ofIntake i queue delivery).run moves).run (.begin now :: quiet)) now report ∧
          (((ofIntake i queue delivery).run moves).relay.queue.Steady →
            report.sent =
              (told ((ofIntake i queue delivery).run moves).relay.store.due now).countP fun e =>
                decide (((ofIntake i queue delivery).run moves).relay.delivery.Passes e
                  ((ofIntake i queue delivery).run moves).relay.queue))) ∧
      (((ofIntake i queue delivery).run moves).relay.store.due.keys.Pairwise fun k k' =>
        utf8 k < utf8 k') ∧
      ∀ s : CachedState, s.StandsFor now (s.outgoing now) := by
  have hidle := idle_run i queue delivery moves running ended
  generalize (ofIntake i queue delivery).run moves = v at hidle
  refine ⟨(hidle.within now).ends, ?_, v.relay.store.due.bytes_ascending,
    fun s => s.standsFor_outgoing now⟩
  intro quiet hquiet hended
  obtain ⟨report, houtcome⟩ := hidle.outcome hquiet hended
  exact ⟨report, houtcome, houtcome.sent_of_steady⟩

/-- A service has been silent for years. -/
def silent : CachedState :=
  ⟨.service "web2" "ping" "ok" "answering" 1600000000, 300⟩

/-- A queue that holds no long payloads. -/
def shortOnly : Queue where
  refuses _ _ payload :=
    if 128 < payload.length then some (.unavailable "connection reset") else none

/-- A one-shot state, a state that is believed, one without a state text and a stale one are
cached, and the owner has taken two of them. -/
def fourReported : List Move :=
  [.start, .upsert unheard, .upsert restarted, .take, .take, .upsert answering, .upsert silent]

/-- The owner keeps the tick waiting for a while. -/
def unhurried : List Move :=
  [.step, .step, .take, .take, .step, .take, .step, .step, .step, .step, .step, .take, .step, .take]

theorem tick_ends_with_outcome_unhurried :
    ((ofIntake {} shortOnly {}).run fourReported).relay.store.owner = .running ∧
      ((ofIntake {} shortOnly {}).run fourReported).tick.result ≠ .waiting ∧
      ((ofIntake {} shortOnly {}).run fourReported).relay.queue.Steady ∧
      Outcome ((ofIntake {} shortOnly {}).run fourReported)
        (((ofIntake {} shortOnly {}).run fourReported).run (.begin 1700000060 :: unhurried))
        1700000060 ⟨4, 2, 1, 2, 1⟩ := by
  have hquiet : Quiet unhurried := by
    unfold Quiet
    decide
  have hnever : ∀ report : TickReport, Call.ended (.ok report) ≠ .waiting := nofun
  have hidle : ((ofIntake {} shortOnly {}).run fourReported).tick.result ≠ .waiting := hnever {}
  have hend :
      (((ofIntake {} shortOnly {}).run fourReported).run
          (.begin 1700000060 :: unhurried)).tick.stage = .sending [] ∧
        (((ofIntake {} shortOnly {}).run fourReported).run
          (.begin 1700000060 :: unhurried)).tick.report = ⟨4, 2, 1, 2, 1⟩ := by
    decide +kernel
  have hresult :
      (((ofIntake {} shortOnly {}).run fourReported).run
        (.begin 1700000060 :: unhurried)).tick.result = .ended (.ok ⟨4, 2, 1, 2, 1⟩) :=
    (Tick.result_of_sending_nil hend.1).trans
      (congrArg (fun report => Call.ended (.ok report)) hend.2)
  obtain ⟨report, houtcome, -⟩ :=
    (tick_ends_with_outcome {} shortOnly {} fourReported rfl hidle 1700000060).2.1 unhurried
      hquiet (hresult ▸ hnever _)
  obtain rfl : ⟨4, 2, 1, 2, 1⟩ = report :=
    Except.ok.inj (Call.ended.inj (hresult.symm.trans houtcome.ended))
  exact ⟨rfl, hidle, fun _ _ _ => rfl, houtcome⟩

end Traffic

end AlertRelay
