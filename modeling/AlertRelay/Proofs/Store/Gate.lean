/-
AlertRelay/Proofs/Store/Gate.lean

A service whose callers wait in line, and a clock.

In `Service` a call may offer its command at any time, and an update may give up at any time.  Here
both depend on who came first and on how much time has passed:

* a call that finds no place in the intake stands in line;
* a place that becomes free while somebody stands in line is kept for the first, who takes it when
  it is his turn to do something;
* an update gives up when its time is over and it still stands in line.  One that has been given a
  place takes it, be it ever so late.

So a place is in use if a command waits in it or it is kept for a call, and the intake is full if
all are (`Gate.Full`).  Nobody stands in line otherwise (`Fair`).

Apart from the line the moves are those of the service, so what holds of every run of the service
holds here as well (`exists_run_service`).
-/
import AlertRelay.Proofs.Store.Due
import AlertRelay.Proofs.Store.Refusals

namespace AlertRelay

/-- A service with a line of calls in front of its intake, and a clock. -/
structure Gate where
  service : Service
  /-- The calls that stand in line, the first one first, and since when. -/
  line : List (Nat × Nat) := []
  /-- The calls that a place is kept for. -/
  kept : List Nat := []
  /-- The time in nanoseconds. -/
  now : Nat := 0

namespace Gate

open Service (Move Wish Phase Note)

/-- What happens at the gate. -/
inductive Event where
  | move (move : Move)
  /-- Some nanoseconds pass. -/
  | pass (nanos : Nat)
deriving DecidableEq

/-- A gate that nobody has come to. -/
def ofIntake (i : Intake) : Gate :=
  { service := .ofIntake i }

variable (g : Gate)

/-- How many places are in use. -/
def used : Nat :=
  g.service.store.waiting.length + g.kept.length

/-- Whether all places are in use. -/
def Full : Prop :=
  g.service.store.capacity ≤ g.used

instance : Decidable g.Full :=
  inferInstanceAs (Decidable (_ ≤ _))

/-- The calls that stand in line. -/
def queue : List Nat :=
  g.line.map (·.1)

/-- Whether a call stands in line and its time is over. -/
def Overdue (id : Nat) : Prop :=
  ∃ e ∈ g.line, e.1 = id ∧ e.2 + g.service.store.submitTimeout.nanos ≤ g.now

instance (id : Nat) : Decidable (g.Overdue id) :=
  inferInstanceAs (Decidable (∃ e ∈ g.line, _))

/-- The line without a call. -/
def lineWithout (id : Nat) : List (Nat × Nat) :=
  g.line.filter (·.1 ≠ id)

/-- A move of the service that concerns nobody in line. -/
def moved (move : Move) : Gate :=
  { g with service := g.service.act move }

/-- A place that has become free is kept for the first in line. -/
def handOver : Gate :=
  match g.line with
  | [] => g
  | e :: rest => { g with line := rest, kept := g.kept ++ [e.1] }

/-- A call comes to the gate. -/
def press (id : Nat) : Gate :=
  match g.service.calls[id]? with
  | some (.submitting _) =>
    if g.service.store.owner = .stopped then
      { g with
        service := g.service.act (.press id)
        line := g.lineWithout id
        kept := g.kept.erase id }
    else if id ∈ g.kept then
      { g with service := g.service.act (.press id), kept := g.kept.erase id }
    else if id ∈ g.queue then g
    else if g.Full then { g with line := g.line ++ [(id, g.now)] }
    else g.moved (.press id)
  | _ => g

/-- An update looks at the clock. -/
def expire (id : Nat) : Gate :=
  match g.service.calls[id]? with
  | some (.submitting (.upsert _)) =>
    if g.service.store.owner ≠ .stopped ∧ g.Overdue id then
      { g with service := g.service.act (.expire id), line := g.lineWithout id }
    else g
  | _ => g

/-- A call is given up, and with it a place that is kept for it. -/
def abandon (id : Nat) : Gate :=
  if id ∈ g.kept then
    handOver { g with service := g.service.act (.abandon id), kept := g.kept.erase id }
  else { g with service := g.service.act (.abandon id), line := g.lineWithout id }

/-- The owner takes a command, if it can, and its place becomes free. -/
def take : Gate :=
  if (g.moved .take).used < g.used then (g.moved .take).handOver else g.moved .take

/-- The gate after an event. -/
def act : Event → Gate
  | .move (.press id) => g.press id
  | .move (.expire id) => g.expire id
  | .move (.abandon id) => g.abandon id
  | .move .take => g.take
  | .move move => g.moved move
  | .pass nanos => { g with now := g.now + nanos }

/-- The gate after some events. -/
def run (events : List Event) : Gate :=
  events.foldl act g

variable {g}

/-! ### The moves of the service -/

@[simp] theorem service_handOver : g.handOver.service = g.service := by
  unfold handOver
  split <;> rfl

/-- What an event does to the service: nothing, or one move.  An update gives up only if its time is
over. -/
inductive Serves (g : Gate) (event : Event) (v : Service) : Prop where
  | rests (service : v = g.service)
  | makes (move : Move) (event : event = .move move) (service : v = g.service.act move)
      (expires : ∀ id, move = .expire id → g.service.store.owner ≠ .stopped ∧ g.Overdue id)

theorem Serves.plain {event : Event} {v : Service} {move : Move} (hevent : event = .move move)
    (hservice : v = g.service.act move) (hne : ∀ id, move ≠ .expire id) : Serves g event v :=
  .makes move hevent hservice fun id he => absurd he (hne id)

theorem serves (g : Gate) (event : Event) : Serves g event (g.act event).service := by
  cases event with
  | pass nanos => exact .rests rfl
  | move move =>
    cases move with
    | press id =>
      simp only [act, press]
      split
      · split_ifs
        · exact .plain rfl rfl fun _ => nofun
        · exact .plain rfl rfl fun _ => nofun
        · exact .rests rfl
        · exact .rests rfl
        · exact .plain rfl rfl fun _ => nofun
      · exact .rests rfl
    | expire id =>
      simp only [act, expire]
      split
      · split_ifs with h
        · refine .makes _ rfl rfl fun _ he => ?_
          cases he
          exact h
        · exact .rests rfl
      · exact .rests rfl
    | abandon id =>
      refine .plain rfl ?_ fun _ => nofun
      simp only [act, abandon]
      split_ifs
      · exact service_handOver
      · rfl
    | take =>
      refine .plain rfl ?_ fun _ => nofun
      simp only [act, take]
      split_ifs
      · exact service_handOver
      · rfl
    | clone => exact .plain rfl rfl fun _ => nofun
    | drop => exact .plain rfl rfl fun _ => nofun
    | call w => exact .plain rfl rfl fun _ => nofun
    | collect id => exact .plain rfl rfl fun _ => nofun
    | start => exact .plain rfl rfl fun _ => nofun
    | cancel => exact .plain rfl rfl fun _ => nofun
    | leave => exact .plain rfl rfl fun _ => nofun

/-- **What everything at the gate amounts to** is a run of the service. -/
theorem exists_run_service (g : Gate) (events : List Event) :
    ∃ moves, (g.run events).service = g.service.run moves ∧
      ∀ move ∈ moves, Event.move move ∈ events := by
  induction events generalizing g with
  | nil => exact ⟨[], rfl, by simp⟩
  | cons event events ih =>
    obtain ⟨moves, hrun, hmem⟩ := ih (g.act event)
    have hrun : (g.run (event :: events)).service = (g.act event).service.run moves := hrun
    cases g.serves event with
    | rests hservice =>
      exact ⟨moves, hservice ▸ hrun, fun move hm => List.mem_cons_of_mem _ (hmem move hm)⟩
    | makes move hevent hservice _ =>
      refine ⟨move :: moves, ?_, ?_⟩
      · rw [hrun, hservice]
        rfl
      · refine List.forall_mem_cons.2 ⟨?_, fun m hm => List.mem_cons_of_mem _ (hmem m hm)⟩
        rw [hevent]
        exact List.mem_cons_self

/-! ### Who stands in line, and for whom places are kept -/

/-- What holds at the gate all the time. -/
structure Fair (g : Gate) : Prop where
  roomy : 0 < g.service.store.capacity
  within : g.used ≤ g.service.store.capacity
  /-- Nobody stands in line if there is a place. -/
  full : g.service.store.owner ≠ .stopped → g.line ≠ [] → g.Full
  /-- Nobody comes twice. -/
  distinct : (g.kept ++ g.queue).Nodup
  submitting : ∀ id ∈ g.kept ++ g.queue, ∃ w, g.service.calls[id]? = some (.submitting w)

theorem fair_ofIntake (i : Intake) : Fair (ofIntake i) where
  roomy := (Store.bounded_ofIntake i).roomy
  within := Nat.zero_le _
  full _ h := absurd rfl h
  distinct := List.nodup_nil
  submitting := by simp [ofIntake, queue]

theorem Fair.distinct_kept (h : Fair g) : g.kept.Nodup :=
  (List.nodup_append.1 h.distinct).1

theorem Fair.not_mem_queue (h : Fair g) {id : Nat} (hid : id ∈ g.kept) : id ∉ g.queue :=
  fun hqueue => (List.nodup_append.1 h.distinct).2.2 id hid id hqueue rfl

/-- A line without a call has the others in it. -/
theorem mem_map_lineWithout {id id' : Nat} :
    id' ∈ (g.lineWithout id).map (·.1) ↔ id' ∈ g.queue ∧ id' ≠ id := by
  simp only [lineWithout, queue, List.mem_map, List.mem_filter, decide_eq_true_eq]
  constructor
  · rintro ⟨e, ⟨he, hne⟩, rfl⟩
    exact ⟨⟨e, he, rfl⟩, hne⟩
  · rintro ⟨⟨e, he, rfl⟩, hne⟩
    exact ⟨e, ⟨he, hne⟩, rfl⟩

theorem lineWithout_sublist (id : Nat) : ((g.lineWithout id).map (·.1)).Sublist g.queue :=
  List.filter_sublist.map _

/-- A move that is no press, and by which the owner takes nothing, leaves what waits alone. -/
theorem waiting_act {v : Service} {move : Move} (hpress : ∀ id, move ≠ .press id)
    (htake : move ≠ .take) : (v.act move).store.waiting = v.store.waiting ∨
      (v.act move).store.owner = .stopped ∧ (v.act move).store.waiting = [] := by
  cases move with
  | press id => exact absurd rfl (hpress id)
  | take => exact absurd rfl htake
  | clone =>
    simp only [Service.act]
    split <;> exact .inl rfl
  | drop =>
    simp only [Service.act]
    split <;> exact .inl rfl
  | call w =>
    simp only [Service.act]
    split <;> exact .inl rfl
  | expire id =>
    simp only [Service.act]
    split <;> exact .inl rfl
  | abandon id => exact .inl rfl
  | collect id =>
    simp only [Service.act]
    split
    · exact .inl rfl
    · unfold Service.look
      split <;> exact .inl rfl
    · exact .inl rfl
  | start => exact .inl (Store.start_waiting _)
  | cancel => exact .inl rfl
  | leave =>
    simp only [Service.act]
    split
    · exact .inr ⟨rfl, rfl⟩
    · exact .inl rfl

/-- A call to an owner that has stopped is refused. -/
theorem press_of_stopped {v : Service} {id : Nat} {w : Wish}
    (hphase : v.calls[id]? = some (.submitting w)) (ho : v.store.owner = .stopped) :
    v.act (.press id) = v.conclude id (.refused id .closed) := by
  have hoffer : (Service.prepared v.store w).offer (w.command v.store.tickets) = .closed := by
    refine Store.offer_eq_closed_iff.2 ?_
    cases w <;> exact ho
  simp only [Service.act, hphase, Service.submit, hoffer]

/-- A call for which there is room is accepted. -/
theorem press_of_room {v : Service} {id : Nat} {w : Wish}
    (hphase : v.calls[id]? = some (.submitting w)) (ho : v.store.owner ≠ .stopped)
    (hroom : v.store.waiting.length < v.store.capacity) :
    (v.act (.press id)).store.waiting.length = v.store.waiting.length + 1 ∧
      (v.act (.press id)).store.owner = v.store.owner := by
  have hoffer : ∃ s', (Service.prepared v.store w).offer (w.command v.store.tickets) =
      .accepted s' ∧ s'.waiting.length = v.store.waiting.length + 1 ∧
      s'.owner = v.store.owner := by
    refine ⟨_, Store.offer_eq_accepted_iff.2 ⟨?_, ?_, rfl⟩, ?_, ?_⟩
    all_goals cases w <;> simp [Service.prepared, Store.withTicket, ho, hroom]
  obtain ⟨s', hoffer, hlength, howner⟩ := hoffer
  simp only [Service.act, hphase, Service.submit, hoffer]
  exact ⟨hlength, howner⟩

/-- Those who stay submit as before, if the move is about nobody of them. -/
theorem Fair.submitting_act (h : Fair g) {move : Move} {id : Nat} (hid : id ∈ g.kept ++ g.queue)
    (hpress : move ≠ .press id) (hexpire : move ≠ .expire id) (habandon : move ≠ .abandon id) :
    ∃ w, (g.service.act move).calls[id]? = some (.submitting w) := by
  obtain ⟨w, hw⟩ := h.submitting id hid
  exact ⟨w, Service.submitting_act hw hpress hexpire habandon⟩

/-- A move that leaves what waits alone and concerns nobody in line. -/
theorem Fair.moved (h : Fair g) {move : Move} (hpress : ∀ id, move ≠ .press id)
    (hexpire : ∀ id, move ≠ .expire id) (habandon : ∀ id, move ≠ .abandon id)
    (htake : move ≠ .take) : Fair (g.moved move) where
  roomy := by
    show 0 < (g.service.act move).store.capacity
    rw [(Service.measures_act _ _).1]
    exact h.roomy
  within := by
    show (g.service.act move).store.waiting.length + g.kept.length ≤ _
    have hwithin : g.service.store.waiting.length + g.kept.length ≤ _ := h.within
    rw [Gate.moved, (Service.measures_act _ _).1]
    rcases waiting_act (v := g.service) hpress htake with hsame | ⟨-, hnil⟩
    · rw [hsame]
      exact hwithin
    · rw [hnil, List.length_nil]
      omega
  full := by
    intro ho hline
    have hfull : g.service.store.capacity ≤ g.service.store.waiting.length + g.kept.length :=
      h.full (fun hstop => ho (Service.stopped_act hstop move)) hline
    show (g.service.act move).store.capacity ≤
      (g.service.act move).store.waiting.length + g.kept.length
    rcases waiting_act (v := g.service) hpress htake with hsame | ⟨hstop, -⟩
    · rw [(Service.measures_act _ _).1, hsame]
      exact hfull
    · exact absurd hstop ho
  distinct := h.distinct
  submitting _ hid := h.submitting_act hid (hpress _) (hexpire _) (habandon _)

/-- **Handing over** a free place: it is kept for the first in line, if anybody is there. -/
theorem fair_handOver (roomy : 0 < g.service.store.capacity)
    (free : g.used < g.service.store.capacity)
    (full : g.service.store.owner ≠ .stopped → g.line ≠ [] →
      g.service.store.capacity ≤ g.used + 1)
    (distinct : (g.kept ++ g.queue).Nodup)
    (submitting : ∀ id ∈ g.kept ++ g.queue, ∃ w, g.service.calls[id]? = some (.submitting w)) :
    Fair g.handOver := by
  unfold handOver
  split
  · rename_i hline
    exact ⟨roomy, Nat.le_of_lt free, fun _ hne => absurd hline hne, distinct, submitting⟩
  · rename_i e rest hline
    have hsplit : g.kept ++ g.queue = (g.kept ++ [e.1]) ++ rest.map (·.1) := by
      rw [queue, hline]
      simp
    have hused : g.service.store.waiting.length + (g.kept ++ [e.1]).length = g.used + 1 := by
      rw [List.length_append]
      rfl
    rw [hsplit] at distinct submitting
    refine ⟨roomy, ?_, fun ho _ => ?_, distinct, submitting⟩
    · show g.service.store.waiting.length + (g.kept ++ [e.1]).length ≤ _
      rw [hused]
      exact free
    · show _ ≤ g.service.store.waiting.length + (g.kept ++ [e.1]).length
      rw [hused]
      exact full ho (by simp [hline])

/-- The owner takes at most one command, and leaves the calls alone. -/
theorem act_take (v : Service) : (v.act .take).calls = v.calls ∧
    (v.act .take).store.owner = v.store.owner ∧
    ((v.act .take).store.waiting.length = v.store.waiting.length ∨
      (v.act .take).store.waiting.length + 1 = v.store.waiting.length) := by
  simp only [Service.act]
  split
  · exact ⟨rfl, rfl, .inl rfl⟩
  · refine ⟨rfl, Store.take_owner _, ?_⟩
    rcases v.store.take_cases with ⟨heq, -⟩ | ⟨c, rest, -, hw, heq⟩
    · rw [heq]
      exact .inl rfl
    · rw [heq, hw]
      exact .inr rfl

theorem Fair.take (h : Fair g) : Fair g.take := by
  obtain ⟨hcalls, howner, hlength⟩ := act_take g.service
  have hcapacity : (g.service.act .take).store.capacity = g.service.store.capacity :=
    (Service.measures_act _ _).1
  have hsubmitting : ∀ id ∈ g.kept ++ g.queue,
      ∃ w, (g.service.act .take).calls[id]? = some (.submitting w) := by
    rw [hcalls]
    exact h.submitting
  have hwithin : g.service.store.waiting.length + g.kept.length ≤ g.service.store.capacity :=
    h.within
  have hroomy := h.roomy
  unfold Gate.take
  rcases hlength with hsame | hless
  · -- nothing has been taken
    have hused : (g.moved .take).used = g.used := by
      show (g.service.act .take).store.waiting.length + g.kept.length = _
      rw [hsame]
      rfl
    rw [if_neg (by omega)]
    refine ⟨hcapacity ▸ hroomy, ?_, fun ho hline => ?_, h.distinct, hsubmitting⟩
    · show (g.moved .take).used ≤ (g.service.act .take).store.capacity
      rw [hused, hcapacity]
      exact h.within
    · show (g.service.act .take).store.capacity ≤ (g.moved .take).used
      rw [hused, hcapacity]
      exact h.full (howner ▸ ho) hline
  · -- the place of what has been taken is handed over
    have hused : (g.moved .take).used + 1 = g.used := by
      show (g.service.act .take).store.waiting.length + g.kept.length + 1 =
        g.service.store.waiting.length + g.kept.length
      omega
    rw [if_pos (by omega)]
    refine fair_handOver (hcapacity ▸ hroomy) ?_ (fun ho hline => ?_) h.distinct hsubmitting
    · show (g.moved .take).used < (g.service.act .take).store.capacity
      have : g.used ≤ g.service.store.capacity := h.within
      omega
    · show (g.service.act .take).store.capacity ≤ (g.moved .take).used + 1
      rw [hused, hcapacity]
      exact h.full (howner ▸ ho) hline

/-- A call that leaves takes nobody else with it. -/
theorem Fair.submitting_without (h : Fair g) {id : Nat} {move : Move} {kept queue : List Nat}
    (hkept : kept.Sublist g.kept) (hqueue : queue.Sublist g.queue) (hidKept : id ∉ kept)
    (hidQueue : id ∉ queue) (hmove : move = .press id ∨ move = .expire id ∨ move = .abandon id) :
    (kept ++ queue).Nodup ∧
      ∀ id' ∈ kept ++ queue, ∃ w, (g.service.act move).calls[id']? = some (.submitting w) := by
  have hsublist := hkept.append hqueue
  refine ⟨h.distinct.sublist hsublist, fun id' hmem => ?_⟩
  have hne : id' ≠ id := by
    rintro rfl
    exact (List.mem_append.1 hmem).elim hidKept hidQueue
  refine h.submitting_act (hsublist.subset hmem) ?_ ?_ ?_
  all_goals
    rintro rfl
    rcases hmove with he | he | he <;> cases he
    exact hne rfl

/-- Nobody is in line under a name that has been taken out. -/
theorem not_mem_lineWithout (id : Nat) : id ∉ (g.lineWithout id).map (·.1) :=
  fun h => (mem_map_lineWithout.1 h).2 rfl

theorem Fair.not_mem_erase (h : Fair g) (id : Nat) : id ∉ g.kept.erase id :=
  h.distinct_kept.not_mem_erase

section

variable {id : Nat} {w : Wish} (h : Fair g) (hphase : g.service.calls[id]? = some (.submitting w))

include h hphase

/-- A call to an owner that has stopped is refused, and gives up its place. -/
theorem Fair.press_stopped (hstop : g.service.store.owner = .stopped) :
    Fair { g with
      service := g.service.act (.press id)
      line := g.lineWithout id
      kept := g.kept.erase id } := by
  have hstore : (g.service.act (.press id)).store = g.service.store := by
    rw [press_of_stopped hphase hstop]
    rfl
  have hwithin : g.service.store.waiting.length + g.kept.length ≤ g.service.store.capacity :=
    h.within
  have hothers := h.submitting_without (List.erase_sublist (a := id)) (g.lineWithout_sublist id)
    (h.not_mem_erase id) (not_mem_lineWithout id) (.inl rfl)
  refine ⟨hstore ▸ h.roomy, ?_, fun ho _ => ?_, hothers.1, hothers.2⟩
  · show (g.service.act (.press id)).store.waiting.length + (g.kept.erase id).length ≤
      (g.service.act (.press id)).store.capacity
    have := List.length_erase_le (a := id) (l := g.kept)
    rw [hstore]
    omega
  · exact absurd (Service.stopped_act hstop (.press id)) ho

/-- A call takes the place that is kept for it. -/
theorem Fair.press_kept (hstop : g.service.store.owner ≠ .stopped) (hkept : id ∈ g.kept) :
    Fair { g with service := g.service.act (.press id), kept := g.kept.erase id } := by
  have hcapacity : (g.service.act (.press id)).store.capacity = g.service.store.capacity :=
    (Service.measures_act _ _).1
  have hwithin : g.service.store.waiting.length + g.kept.length ≤ g.service.store.capacity :=
    h.within
  have hlength := List.length_erase_of_mem hkept
  have hpos := List.length_pos_of_mem hkept
  obtain ⟨hwaiting, howner⟩ := press_of_room hphase hstop (by omega)
  have hused : (g.service.act (.press id)).store.waiting.length + (g.kept.erase id).length =
      g.used := by
    rw [hwaiting, hlength]
    show _ = g.service.store.waiting.length + g.kept.length
    omega
  have hothers := h.submitting_without (List.erase_sublist (a := id)) (.refl g.queue)
    (h.not_mem_erase id) (h.not_mem_queue hkept) (.inl rfl)
  refine ⟨hcapacity ▸ h.roomy, ?_, fun ho hline => ?_, hothers.1, hothers.2⟩
  · show (g.service.act (.press id)).store.waiting.length + (g.kept.erase id).length ≤
      (g.service.act (.press id)).store.capacity
    rw [hused, hcapacity]
    exact h.within
  · show (g.service.act (.press id)).store.capacity ≤
      (g.service.act (.press id)).store.waiting.length + (g.kept.erase id).length
    rw [hused, hcapacity]
    exact h.full hstop hline

/-- A call that finds no place stands in line. -/
theorem Fair.press_line (hkept : id ∉ g.kept) (hqueue : id ∉ g.queue) (hfull : g.Full) :
    Fair { g with line := g.line ++ [(id, g.now)] } := by
  have hsplit : g.kept ++ (g.line ++ [(id, g.now)]).map (·.1) = g.kept ++ g.queue ++ [id] := by
    rw [List.map_append, ← List.append_assoc]
    rfl
  refine ⟨h.roomy, h.within, fun _ _ => hfull, ?_, ?_⟩
  · show (g.kept ++ (g.line ++ [(id, g.now)]).map (·.1)).Nodup
    rw [hsplit, List.nodup_append]
    refine ⟨h.distinct, by simp, fun a ha b hb => ?_⟩
    rintro rfl
    rw [List.mem_singleton.1 hb] at ha
    exact (List.mem_append.1 ha).elim hkept hqueue
  · show ∀ id' ∈ g.kept ++ (g.line ++ [(id, g.now)]).map (·.1), _
    rw [hsplit]
    intro id' hid'
    rcases List.mem_append.1 hid' with hid' | hid'
    · exact h.submitting id' hid'
    · exact ⟨w, List.mem_singleton.1 hid' ▸ hphase⟩

/-- A call takes a free place. -/
theorem Fair.press_free (hstop : g.service.store.owner ≠ .stopped) (hkept : id ∉ g.kept)
    (hqueue : id ∉ g.queue) (hfull : ¬g.Full) : Fair (g.moved (.press id)) := by
  have hcapacity : (g.service.act (.press id)).store.capacity = g.service.store.capacity :=
    (Service.measures_act _ _).1
  have hfree : g.service.store.waiting.length + g.kept.length < g.service.store.capacity :=
    Nat.lt_of_not_le hfull
  -- a place is free, so nobody stands in line
  have hline : g.line = [] := by
    by_contra hline
    exact hfull (h.full hstop hline)
  obtain ⟨hwaiting, howner⟩ := press_of_room hphase hstop (by omega)
  have hothers := h.submitting_without (.refl g.kept) (.refl g.queue) hkept hqueue (.inl rfl)
  refine ⟨hcapacity ▸ h.roomy, ?_, fun _ hne => absurd hline hne, hothers.1, hothers.2⟩
  show (g.service.act (.press id)).store.waiting.length + g.kept.length ≤
    (g.service.act (.press id)).store.capacity
  omega

end

theorem Fair.press (h : Fair g) (id : Nat) : Fair (g.press id) := by
  unfold Gate.press
  split
  case h_2 => exact h
  rename_i w hphase
  split_ifs with hstop hkept hqueue hfull
  · exact h.press_stopped hphase hstop
  · exact h.press_kept hphase hstop hkept
  · exact h
  · exact h.press_line hphase hkept hqueue hfull
  · exact h.press_free hphase hstop hkept hqueue hfull

theorem Fair.expire (h : Fair g) (id : Nat) : Fair (g.expire id) := by
  unfold Gate.expire
  split
  case h_2 => exact h
  rename_i s hphase
  split_ifs with hover
  · have hstore : (g.service.act (.expire id)).store = g.service.store := by
      simp only [Service.act, hphase]
      rfl
    -- it stands in line, so no place is kept for it
    obtain ⟨e, he, hid, -⟩ := hover.2
    have hkept : id ∉ g.kept := fun hkept =>
      h.not_mem_queue hkept (List.mem_map.2 ⟨e, he, hid⟩)
    have hothers := h.submitting_without (.refl g.kept) (g.lineWithout_sublist id)
      hkept (not_mem_lineWithout id) (.inr (.inl rfl))
    refine ⟨hstore ▸ h.roomy, ?_, fun ho hline => ?_, hothers.1, hothers.2⟩
    · show (g.service.act (.expire id)).store.waiting.length + g.kept.length ≤
        (g.service.act (.expire id)).store.capacity
      rw [hstore]
      exact h.within
    · show (g.service.act (.expire id)).store.capacity ≤
        (g.service.act (.expire id)).store.waiting.length + g.kept.length
      rw [hstore]
      exact h.full hover.1 (List.ne_nil_of_mem he)
  · exact h

theorem Fair.abandon (h : Fair g) (id : Nat) : Fair (g.abandon id) := by
  have hwithin : g.service.store.waiting.length + g.kept.length ≤ g.service.store.capacity :=
    h.within
  unfold Gate.abandon
  split_ifs with hkept
  · have hlength := List.length_erase_of_mem hkept
    have hpos := List.length_pos_of_mem hkept
    have hothers := h.submitting_without (List.erase_sublist (a := id)) (.refl g.queue)
      (h.not_mem_erase id) (h.not_mem_queue hkept) (.inr (.inr rfl))
    refine fair_handOver h.roomy ?_ (fun ho hline => ?_) hothers.1 hothers.2
    · show g.service.store.waiting.length + (g.kept.erase id).length < _
      rw [hlength]
      show _ < g.service.store.capacity
      omega
    · have hfull : g.service.store.capacity ≤ g.service.store.waiting.length + g.kept.length :=
        h.full ho hline
      show g.service.store.capacity ≤
        g.service.store.waiting.length + (g.kept.erase id).length + 1
      omega
  · have hothers := h.submitting_without (.refl g.kept) (g.lineWithout_sublist id)
      hkept (not_mem_lineWithout id) (.inr (.inr rfl))
    refine ⟨h.roomy, h.within, fun ho hline => h.full ho ?_, hothers.1, hothers.2⟩
    rintro hnil
    exact hline (by simp [lineWithout, hnil])

/-- **Every event** keeps this up. -/
theorem Fair.act (h : Fair g) (event : Event) : Fair (g.act event) := by
  cases event with
  | pass nanos => exact ⟨h.roomy, h.within, h.full, h.distinct, h.submitting⟩
  | move move =>
    cases move with
    | press id => exact h.press id
    | expire id => exact h.expire id
    | abandon id => exact h.abandon id
    | take => exact h.take
    | _ => exact h.moved (fun _ => nofun) (fun _ => nofun) (fun _ => nofun) nofun

theorem fair_run (i : Intake) (events : List Event) : Fair ((ofIntake i).run events) := by
  refine List.foldlRecOn (motive := Fair) events Gate.act (fair_ofIntake i) ?_
  intro g hg event _
  exact hg.act event

end Gate

end AlertRelay
