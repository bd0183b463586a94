/-
AlertRelay/Proofs/Server/Independence.lean

States of different checks do not know of each other.

Two histories say the same if they say the same of every key, in the same order (`SameByKey`): the
commands of one caller may come before those of another or between them, as long as no two commands
about one key change places.  Such histories come to the same states, since what stands under a key
is decided by the commands about this key alone (`SameByKey.replay_eq`).

Nobody can tell them apart afterwards.  Whoever asks is shown the same, byte for byte, and a tick
does the same, although the two stores have been through different things on the way.  It need not
even find their owners at the same pace: each tick comes to an outcome that can be said in advance
from what is due, so two of them come to the same one (`Traffic.TicksAlike`).
-/
import AlertRelay.Proofs.Server.Replay
import AlertRelay.Proofs.Tick.Alike
import AlertRelay.Proofs.Tick.Outcome

namespace AlertRelay

/-! ### Histories that say the same -/

/-- Two histories have the same commands about each key, in the same order. -/
def SameByKey (h h' : List Command) : Prop :=
  ∀ key, (h.filter fun c => c.key? = some key) = h'.filter fun c => c.key? = some key

/-- The last word about a key is that of the commands about it. -/
theorem lastWord_filter (key : String) (h : List Command) :
    lastWord key (h.filter fun c => c.key? = some key) = lastWord key h := by
  induction h with
  | nil => rfl
  | cons c h ih =>
    by_cases hc : c.key? = some key
    · rw [List.filter_cons_of_pos (by simpa using hc), lastWord, lastWord, ih]
    · rw [List.filter_cons_of_neg (by simpa using hc), lastWord, if_neg hc, Option.or_none, ih]

theorem get?_replay_eq_lastWord (h : List Command) (key : String) :
    (replay h).get? key = (lastWord key h).getD none :=
  get?_foldl_apply h ∅ key

/-- **Histories that say the same** come to the same states. -/
theorem SameByKey.replay_eq {h h' : List Command} (hsame : SameByKey h h') :
    replay h = replay h' := by
  apply KeyedMap.ext_get?
  intro key
  rw [get?_replay_eq_lastWord, get?_replay_eq_lastWord, ← lastWord_filter, hsame key,
    lastWord_filter]

/-! ### Stores that have been through them -/

namespace Store

/-- The intake never holds more than it has room for. -/
theorem Bounded.run {s : Store} (h : s.Bounded) (actions : List Action) :
    (s.run actions).Bounded := by
  refine List.foldlRecOn (motive := Bounded) actions act h ?_
  intro s hs a _
  cases a with
  | submit c =>
    simp only [act]
    cases ho : s.offer c with
    | accepted s' => exact hs.offer ho
    | full => exact hs
    | closed => exact hs
  | take => exact hs.take
  | start => exact hs.start
  | cancel => exact hs.cancel

variable {i : Intake} {actions : List Action}

theorem ready_run (running : ((ofIntake i).run actions).owner = .running) :
    ((ofIntake i).run actions).Ready :=
  ⟨running, (bounded_ofIntake i).run actions⟩

/-- A new store that has been through something: its history's replay is due. -/
theorem due_run_ofIntake (running : ((ofIntake i).run actions).owner = .running) :
    ((ofIntake i).run actions).due = replay ((ofIntake i).accepts actions) :=
  due_run (by simp [running])

end Store

/-! ### Ticks on them -/

namespace Traffic

/-- A relay whose store is new and has been through something, before the first tick. -/
def ofActions (i : Intake) (actions : List Store.Action) (queue : Queue) (delivery : Delivery) :
    Traffic where
  relay := ⟨(Store.ofIntake i).run actions, queue, delivery⟩
  tick := { now := 0, stage := .sending [] }
  applied :=
    ((Store.ofIntake i).accepts actions).length - ((Store.ofIntake i).run actions).waiting.length
  record := { entered := (Store.ofIntake i).accepts actions }

theorem idle_ofActions {i : Intake} {actions : List Store.Action} (queue : Queue)
    (delivery : Delivery) (running : ((Store.ofIntake i).run actions).owner = .running)
    (hask : ∀ ticket, .snapshot ticket ∉ (Store.ofIntake i).accepts actions) :
    (ofActions i actions queue delivery).Idle where
  follows := by
    obtain ⟨n, hf⟩ := (Follows.ofIntake i).run hask
    rw [List.nil_append] at hf
    have hn := hf.eq_sub (by simp [running])
    rw [hn] at hf
    exact hf
  ready := Store.ready_run running
  ended := nofun

variable {v v' w w' : Traffic} {now : Int64} {report report' : TickReport}

/-- **The outcome** of a tick is decided by what is due and by the queue. -/
theorem Outcome.unique (h : Outcome v w now report) (h' : Outcome v' w' now report')
    (hdue : v'.relay.store.due = v.relay.store.due) (hqueue : v'.relay.queue = v.relay.queue)
    (hdelivery : v'.relay.delivery = v.relay.delivery) :
    report' = report ∧ w'.relay.queue = w.relay.queue ∧
      w'.relay.store.settle.cached = w.relay.store.settle.cached := by
  have hfates : v'.fates v'.relay.store.due now = v.fates v.relay.store.due now := by
    rw [fates, fates, hdue, hqueue, hdelivery]
  refine ⟨?_, by rw [h'.queue, h.queue, hfates], by rw [h'.left, h.left, hdue]⟩
  have hcached : report'.cached = report.cached := by rw [h'.cached, h.cached, hdue]
  have hsent : report'.sent = report.sent := by rw [h'.sent, h.sent, hfates]
  have hstale : report'.stale = report.stale := by rw [h'.stale, h.stale, hdue]
  have htombstoned : report'.tombstoned = report.tombstoned := by
    rw [h'.tombstoned, h.tombstoned, hdue]
  have hfailed : report'.failed = report.failed := by
    have htried := h.tried
    have htried' := h'.tried
    omega
  obtain ⟨cached, sent, stale, failed, tombstoned⟩ := report
  exact (TickReport.mk.injEq ..).mpr ⟨hcached, hsent, hstale, hfailed, htombstoned⟩

/-- A tick comes to the same on two relays when nobody else does anything, whatever the pace of
their owners. -/
structure TicksAlike (v v' : Traffic) (now : Int64) : Prop where
  ends : ∃ quiet, Quiet quiet ∧ (v.run (.begin now :: quiet)).tick.result ≠ .waiting
  ends' : ∃ quiet, Quiet quiet ∧ (v'.run (.begin now :: quiet)).tick.result ≠ .waiting
  alike : ∀ quiet quiet', Quiet quiet → Quiet quiet' →
    (v.run (.begin now :: quiet)).tick.result ≠ .waiting →
    (v'.run (.begin now :: quiet')).tick.result ≠ .waiting → ∃ report,
      Outcome v (v.run (.begin now :: quiet)) now report ∧
        Outcome v' (v'.run (.begin now :: quiet')) now report ∧
        (v'.run (.begin now :: quiet')).relay.queue =
          (v.run (.begin now :: quiet)).relay.queue ∧
        (v'.run (.begin now :: quiet')).relay.store.settle.cached =
          (v.run (.begin now :: quiet)).relay.store.settle.cached

theorem Idle.ticksAlike (h : v.Idle) (h' : v'.Idle)
    (hdue : v'.relay.store.due = v.relay.store.due) (hqueue : v'.relay.queue = v.relay.queue)
    (hdelivery : v'.relay.delivery = v.relay.delivery) (now : Int64) : TicksAlike v v' now where
  ends := (h.within now).ends
  ends' := (h'.within now).ends
  alike quiet quiet' hquiet hquiet' hended hended' := by
    obtain ⟨report, houtcome⟩ := h.outcome hquiet hended
    obtain ⟨report', houtcome'⟩ := h'.outcome hquiet' hended'
    obtain ⟨rfl, hsame⟩ := houtcome.unique houtcome' hdue hqueue hdelivery
    exact ⟨_, houtcome, houtcome', hsame⟩

end Traffic

namespace Store

/-- **Only the order of the commands about one key shows.**  Two stores, of any size and with their
owners at any pace, have accepted commands that say the same of every key in the same order.  Then
whoever asks them is shown the same states, and the answers to a request for them are the same byte
for byte.  A tick that finds room for its question, however far the owners have got, ends with the
same report, pushes the same to every list in the same order, and leaves the same states.  If none
of the commands was a question, this is so for every tick, whatever the pace of the owners. -/
theorem same_by_key_shows_same (i i' : Intake) (actions actions' : List Action)
    (running : ((ofIntake i).run actions).owner = .running)
    (running' : ((ofIntake i').run actions').owner = .running)
    (same : SameByKey ((ofIntake i).accepts actions) ((ofIntake i').accepts actions')) :
    (∀ waits waits', 0 < waits → 0 < waits' → ∃ states,
      (((ofIntake i).run actions).snapshot (List.replicate waits .take)).1 =
          .ended (.ok states) ∧
        (((ofIntake i').run actions').snapshot (List.replicate waits' .take)).1 =
          .ended (.ok states)) ∧
      (∀ path target n now b waits waits', 0 < waits → 0 < waits' →
        Route.isAt path target = true → Route.isAt healthPath target = false → ∃ states,
          (((ofIntake i).run actions).answer path n now (List.replicate waits .take)
              { method := "GET", target, body := b }).response = some (.dump states) ∧
            (((ofIntake i').run actions').answer path n now (List.replicate waits' .take)
              { method := "GET", target, body := b }).response = some (.dump states)) ∧
      (∀ r r' : Relay,
        (∃ k, r.store = takeMany k ((ofIntake i).run actions)) →
        (∃ k, r'.store = takeMany k ((ofIntake i').run actions')) →
        r.store.waiting.length < r.store.capacity → r'.store.waiting.length < r'.store.capacity →
        r'.queue = r.queue → r'.delivery = r.delivery → ∀ now, ∃ report,
          (r.tick now).1 = .ended (.ok report) ∧ (r'.tick now).1 = .ended (.ok report) ∧
            (r'.tick now).2.queue = (r.tick now).2.queue ∧
            (r'.tick now).2.store.cached = (r.tick now).2.store.cached) ∧
      ((∀ ticket, .snapshot ticket ∉ (ofIntake i).accepts actions) →
        (∀ ticket, .snapshot ticket ∉ (ofIntake i').accepts actions') →
        ∀ queue delivery now, Traffic.TicksAlike (.ofActions i actions queue delivery)
          (.ofActions i' actions' queue delivery) now) := by
  have hready := ready_run running
  have hready' := ready_run running'
  have hdue : ((ofIntake i').run actions').due = ((ofIntake i).run actions).due := by
    rw [due_run_ofIntake running, due_run_ofIntake running', same.replay_eq]
  refine ⟨?_, ?_, ?_, ?_⟩
  · intro waits waits' hwaits hwaits'
    refine ⟨_, hready.answer_snapshot hwaits, ?_⟩
    rw [← hdue]
    exact hready'.answer_snapshot hwaits'
  · intro path target n now b waits waits' hwaits hwaits' hat hhealth
    refine ⟨_, hready.dump_of_get hwaits hat hhealth, ?_⟩
    rw [← hdue]
    exact hready'.dump_of_get hwaits' hat hhealth
  · -- the owners may have taken commands in between, which changes nothing that is due
    rintro r r' ⟨k, hstore⟩ ⟨k', hstore'⟩ hroom hroom' hqueue hdelivery now
    have hreadyTick : r.store.Ready := hstore ▸ hready.takeMany k
    have hreadyTick' : r'.store.Ready := hstore' ▸ hready'.takeMany k'
    have hdueTick : r'.store.due = r.store.due := by
      rw [hstore, hstore', due_takeMany, due_takeMany, hdue]
    obtain ⟨report, hend, hend', halike⟩ :=
      Relay.tick_alike hreadyTick hreadyTick' hroom hroom' hdueTick hqueue hdelivery now
    exact ⟨report, hend, hend', halike.queue, halike.cached⟩
  · intro hask hask' queue delivery now
    exact (Traffic.idle_ofActions queue delivery running hask).ticksAlike
      (Traffic.idle_ofActions queue delivery running' hask') hdue rfl rfl now

/-- A service is restarted and answers.  Somebody asks in between and finds no room. -/
def restartFirst : List Action :=
  [.start, .submit (.upsert Traffic.restarted), .submit (.snapshot 7), .take,
    .submit (.tombstone Traffic.restarted.key), .take, .submit (.upsert Traffic.answering), .take]

/-- The answer is reported before the restart, and the owner comes late. -/
def answerFirst : List Action :=
  [.submit (.upsert Traffic.answering), .submit (.upsert Traffic.restarted), .start,
    .submit (.tombstone Traffic.restarted.key), .take]

theorem same_by_key_shows_same_answerFirst :
    SameByKey ((ofIntake { buffer := 1 }).accepts restartFirst)
        ((ofIntake { buffer := 4 }).accepts answerFirst) ∧
      (∃ report,
        (Relay.tick ⟨(ofIntake { buffer := 1 }).run restartFirst, {}, {}⟩ 1700000060).1 =
            .ended (.ok report) ∧
          (Relay.tick ⟨(ofIntake { buffer := 4 }).run answerFirst, {}, {}⟩ 1700000060).1 =
            .ended (.ok report)) ∧
      Traffic.TicksAlike (.ofActions { buffer := 1 } restartFirst {} {})
        (.ofActions { buffer := 4 } answerFirst {} {}) 1700000060 := by
  have haccepts : (ofIntake { buffer := 1 }).accepts restartFirst =
      [.upsert Traffic.restarted, .tombstone Traffic.restarted.key,
        .upsert Traffic.answering] := rfl
  have haccepts' : (ofIntake { buffer := 4 }).accepts answerFirst =
      [.upsert Traffic.answering, .upsert Traffic.restarted,
        .tombstone Traffic.restarted.key] := rfl
  have hsame : SameByKey ((ofIntake { buffer := 1 }).accepts restartFirst)
      ((ofIntake { buffer := 4 }).accepts answerFirst) := by
    have hne : Traffic.answering.key ≠ Traffic.restarted.key := by decide
    intro key
    rw [haccepts, haccepts']
    -- each of the two keys has one order
    by_cases hkey : Traffic.answering.key = key
    · simp [Command.key?, ← hkey, hne.symm]
    · simp [List.filter_cons, Command.key?, hkey]
  obtain ⟨-, -, hticks, halike⟩ := same_by_key_shows_same { buffer := 1 } { buffer := 4 }
    restartFirst answerFirst rfl rfl hsame
  obtain ⟨report, hend, hend', -⟩ := hticks ⟨(ofIntake { buffer := 1 }).run restartFirst, {}, {}⟩
    ⟨(ofIntake { buffer := 4 }).run answerFirst, {}, {}⟩ ⟨0, rfl⟩ ⟨0, rfl⟩ (by decide) (by decide)
    rfl rfl 1700000060
  refine ⟨hsame, ⟨report, hend, hend'⟩, halike ?_ ?_ {} {} 1700000060⟩
  · simp [haccepts]
  · simp [haccepts']

end Store

end AlertRelay
