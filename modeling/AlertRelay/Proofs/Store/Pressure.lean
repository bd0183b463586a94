/-
AlertRelay/Proofs/Store/Pressure.lean

Back-pressure: what an intake promises to those who press on it.

An intake that is full slows its callers down, and updates that cannot wait any longer are refused.
That is exact (`backPressure_run`): nobody is refused for want of room while a place is free at any
moment of the time that he is given, nobody is refused as if the owner had stopped while it has not,
and a refusal means that nothing of the update will ever be seen.

What is accepted is applied in the order of acceptance, one command each time that the owner takes
something, whether it was accepted before the owner has started or later.  There is one exception.
An owner that is told to stop does not look at what waits, not even if it has not begun: then an
update that has returned is lost (`returned_update_lost`).
-/
import AlertRelay.Proofs.Store.Gate

namespace AlertRelay

namespace Service

/-! ### Commands that are taken in order -/

/-- So many takings have been of use, as long as so many commands were there. -/
structure Takes (length takes : Nat) (v : Service) : Prop where
  told : v.told = false
  started : v.store.owner ≠ .absent
  accepted : length ≤ (accepted v.log).length
  applied : ∃ n, Follows (Service.accepted v.log) n v.store ∧ min takes length ≤ n ∧
    (v.store.owner = .stopped → length ≤ n)

variable {v : Service} {length takes : Nat}

/-- **Taking** applies a command, unless all have been applied. -/
theorem Takes.take (h : Takes length takes v) : Takes length (takes + 1) (v.act .take) := by
  obtain ⟨told, started, hlength, n, hf, hn, hstop⟩ := h
  have hact : v.act .take = { v with store := v.store.take } := by simp [act, told]
  rw [hact]
  refine ⟨told, by rwa [Store.take_owner], hlength, ?_⟩
  rcases hf.take with heq | ⟨-, hrun, hf'⟩
  · -- nothing has been taken, so nothing was left
    have hall : length ≤ n := by
      cases ho : v.store.owner with
      | absent => exact absurd ho started
      | stopped => exact hstop ho
      | running =>
        rcases v.store.take_cases with ⟨-, hidle⟩ | ⟨c, rest, -, hw, htake⟩
        · have hempty := hidle.resolve_left (not_not_intro ho)
          rw [hf.eq_length (by simp [ho]) hempty]
          exact hlength
        · have := congrArg (List.length ∘ Store.waiting) (htake.symm.trans heq)
          simp [hw] at this
    refine ⟨n, ?_, by omega, fun _ => hall⟩
    show Follows (Service.accepted v.log) n v.store.take
    rw [heq]
    exact hf
  · refine ⟨n + 1, hf', by omega, fun ho => ?_⟩
    have ho : v.store.take.owner = .stopped := ho
    rw [Store.take_owner, hrun] at ho
    cases ho

/-- Whatever is done leaves the order alone. -/
theorem Takes.act (h : Takes length takes v) {move : Move} (hcancel : move ≠ .cancel) :
    Takes length takes (v.act move) := by
  obtain ⟨told, started, hlength, n, hf, hn, hstop⟩ := h
  cases moved v move with
  | rests hstore hlog htold _ =>
    exact ⟨htold.trans told, hstore ▸ started, hlog ▸ hlength, n, by rwa [hstore, hlog], hn,
      hstore ▸ hstop⟩
  | notes note hquiet hstore hlog htold _ =>
    have haccepted : Service.accepted (v.act move).log = Service.accepted v.log := by
      rw [hlog, accepted_append_of_none _ hquiet]
    exact ⟨htold.trans told, hstore ▸ started, haccepted ▸ hlength, n, by rwa [hstore, haccepted],
      hn, hstore ▸ hstop⟩
  | enters id w hstore hlog htold _ =>
    obtain ⟨halive, howner, -⟩ := offered_prepared hstore
    have haccepted : Service.accepted (v.act move).log =
        Service.accepted v.log ++ [w.command v.store.tickets] := by
      rw [hlog, accepted_append_entered]
    refine ⟨htold.trans told, howner ▸ started, ?_, n, ?_, hn, ?_⟩
    · rw [haccepted, List.length_append]
      exact Nat.le_add_right_of_le hlength
    · rw [haccepted]
      exact follows_prepared hf hstore
    · rw [howner]
      exact fun ho => absurd ho halive
  | starts hstore hlog htold _ =>
    -- an owner starts once
    have hstart : v.store.start = v.store := if_neg started
    rw [hstart] at hstore
    exact ⟨htold.trans told, hstore ▸ started, hlog ▸ hlength, n, by rwa [hstore, hlog], hn,
      hstore ▸ hstop⟩
  | takes _ hstore hlog htold _ =>
    refine ⟨htold.trans told, by rwa [hstore, Store.take_owner], hlog ▸ hlength, ?_⟩
    rw [hstore, hlog, Store.take_owner]
    rcases hf.take with heq | ⟨-, -, hf'⟩
    · exact ⟨n, by rwa [heq], hn, hstop⟩
    · exact ⟨n + 1, hf', by omega, fun ho => Nat.le_succ_of_le (hstop ho)⟩
  | tells hmove _ _ _ _ => exact absurd hmove hcancel
  | leaves hleaves hstore hlog htold _ =>
    -- nobody has told it to, so nothing was left
    obtain ⟨howner, hreason⟩ := hleaves
    have hempty : v.store.waiting = [] := by
      rcases hreason with ht | ⟨-, hw⟩
      · rw [told] at ht
        cases ht
      · exact hw
    have hall : n = (Service.accepted v.log).length := hf.eq_length (by simp [howner]) hempty
    refine ⟨htold.trans told, ?_, hlog ▸ hlength, n, ?_, hn, fun _ => hall ▸ hlength⟩
    · rw [hstore]
      exact fun ho => by cases ho
    · rw [hstore, hlog]
      exact hf.cancel

/-- What has been applied is a beginning of what has been accepted, and no shorter than that. -/
theorem Takes.exists_done (h : Takes length takes v) :
    ∃ done, done <+: Service.accepted v.log ∧ v.store.cached = replay done ∧
      ((Service.accepted v.log).take length).take takes <+: done := by
  obtain ⟨-, -, -, n, hf, hn, -⟩ := h
  refine ⟨_, List.take_prefix n _, hf.cached, ?_⟩
  rw [List.take_take]
  exact List.take_prefix_take_left hn

/-- An owner that has been started has all that waits before it. -/
theorem takes_start (hs : Sound v) (htold : v.told = false) (ho : v.store.owner = .absent) :
    Takes (Service.accepted v.log).length 0 (v.act .start) := by
  obtain ⟨n, hf⟩ := hs.follows
  have hrun : v.store.start.owner = .running := by simp [Store.start, ho]
  refine ⟨htold, ?_, Nat.le_refl _, n, hf.start, by omega, ?_⟩
  · show v.store.start.owner ≠ .absent
    simp [hrun]
  · show v.store.start.owner = .stopped → _
    simp [hrun]

/-! ### Calls that are made too late -/

/-- Of calls that were made when the owner had stopped nothing is noted but that they are refused
as closed. -/
structure Late (first : Nat) (v : Service) : Prop where
  stopped : v.store.owner = .stopped
  known : first ≤ v.calls.length
  phases : ∀ id p, first ≤ id → v.calls[id]? = some p → p = .ended ∨ ∃ w, p = .submitting w
  notes : ∀ note ∈ v.log, first ≤ note.id →
    (∃ w, note = .called note.id w) ∨ note = .refused note.id .closed

variable {first : Nat}

/-- All calls that are made from now on are late. -/
theorem late_of_stopped (hs : Sound v) (stopped : v.store.owner = .stopped) :
    Late v.calls.length v where
  stopped := stopped
  known := Nat.le_refl _
  phases _ _ hle hp := absurd (List.getElem?_eq_some_iff.1 hp).1 (Nat.not_lt.2 hle)
  notes note hnote hle := absurd (hs.numbered note hnote) (Nat.not_lt.2 hle)

/-- A call that is over is no exception. -/
theorem Late.phases_set (h : Late first v) (id : Nat) :
    ∀ id' p, first ≤ id' → (v.calls.set id .ended)[id']? = some p →
      p = .ended ∨ ∃ w, p = .submitting w := by
  intro id' p hle hp
  rw [List.getElem?_set] at hp
  split_ifs at hp with he hlt
  · exact .inl (Option.some.inj hp).symm
  · exact h.phases id' p hle hp

/-- A late call ends by being refused, unless its time is over. -/
theorem Late.closed_of_ends (h : Late first v) {move : Move} (hnot : ∀ id, move ≠ .expire id)
    {id : Nat} {p : Phase} {note : Note} (hphase : v.calls[id]? = some p)
    (hends : Ends v move id p note) (hle : first ≤ note.id) : note = .refused note.id .closed := by
  cases hends with
  | acknowledged => simpa using h.phases id _ hle hphase
  | shown ticket states => simpa using h.phases id _ hle hphase
  | saturated s hmove => exact absurd hmove (hnot id)
  | closed w _ _ => rfl
  | unanswered ticket _ => rfl

theorem Late.act (h : Late first v) {move : Move} (hnot : ∀ id, move ≠ .expire id) :
    Late first (v.act move) := by
  have hstopped := stopped_act h.stopped move
  cases turned v move with
  | rests hcalls hlog =>
    exact ⟨hstopped, hcalls ▸ h.known, hcalls ▸ h.phases, hlog ▸ h.notes⟩
  | abandons id _ hcalls hlog =>
    refine ⟨hstopped, ?_, hcalls ▸ h.phases_set id, hlog ▸ h.notes⟩
    rw [hcalls, List.length_set]
    exact h.known
  | begins w hcalls hlog =>
    refine ⟨hstopped, ?_, fun id p hle hp => ?_, fun note hnote hle => ?_⟩
    · rw [hcalls, List.length_append]
      exact Nat.le_add_right_of_le h.known
    · rw [hcalls] at hp
      rcases getElem?_append_singleton_eq_some hp with hp | ⟨-, rfl⟩
      · exact h.phases id p hle hp
      · exact .inr ⟨w, rfl⟩
    · rw [hlog] at hnote
      rcases List.mem_append.1 hnote with hnote | hnote
      · exact h.notes note hnote hle
      · rw [List.mem_singleton.1 hnote]
        exact .inl ⟨w, rfl⟩
  | enters id w _ _ halive _ _ => exact absurd h.stopped halive
  | ends id p note hphase hends hcalls hlog =>
    refine ⟨hstopped, ?_, hcalls ▸ h.phases_set id, fun note' hnote' hle => ?_⟩
    · rw [hcalls, List.length_set]
      exact h.known
    · rw [hlog] at hnote'
      rcases List.mem_append.1 hnote' with hnote' | hnote'
      · exact h.notes note' hnote' hle
      · obtain rfl := List.mem_singleton.1 hnote'
        exact .inr (h.closed_of_ends hnot hphase hends hle)

end Service

namespace Gate

open Service (Move Wish Phase Note accepted)

variable {g : Gate}

theorem run_append (g : Gate) (events more : List Event) :
    g.run (events ++ more) = (g.run events).run more :=
  List.foldl_append

theorem run_append_singleton (g : Gate) (events : List Event) (event : Event) :
    g.run (events ++ [event]) = (g.run events).act event :=
  run_append g events [event]

/-! ### The time in line -/

theorem line_handOver {e : Nat × Nat} (he : e ∈ g.handOver.line) : e ∈ g.line := by
  unfold handOver at he
  split at he
  · exact he
  · rename_i first rest hline
    rw [hline]
    exact List.mem_cons_of_mem _ he

/-- Who stands in line has stood there before, or since now. -/
theorem line_act {event : Event} {e : Nat × Nat} (he : e ∈ (g.act event).line) :
    e ∈ g.line ∨ e.2 = (g.act event).now := by
  cases event with
  | pass nanos => exact .inl he
  | move move =>
    cases move with
    | press id =>
      simp only [act, press] at he ⊢
      split at he
      · split_ifs at he ⊢
        · exact .inl ((List.mem_filter.1 he).1)
        · exact .inl he
        · exact .inl he
        · rcases List.mem_append.1 he with he | he
          · exact .inl he
          · rw [List.mem_singleton.1 he]
            exact .inr rfl
        · exact .inl he
      · exact .inl he
    | expire id =>
      simp only [act, expire] at he
      split at he
      · split_ifs at he
        · exact .inl ((List.mem_filter.1 he).1)
        · exact .inl he
      · exact .inl he
    | abandon id =>
      simp only [act, abandon] at he
      split_ifs at he
      · exact .inl (line_handOver (g := { g with
          service := g.service.act (.abandon id), kept := g.kept.erase id }) he)
      · exact .inl ((List.mem_filter.1 he).1)
    | take =>
      simp only [act, take] at he
      split_ifs at he
      · exact .inl (line_handOver (g := g.moved .take) he)
      · exact .inl he
    | _ => exact .inl he

/-- An owner that has stopped never starts again. -/
theorem stopped_act (h : g.service.store.owner = .stopped) (event : Event) :
    (g.act event).service.store.owner = .stopped := by
  cases g.serves event with
  | rests hservice => rw [hservice, h]
  | makes move _ hservice _ =>
    rw [hservice]
    exact Service.stopped_act h move

/-- **While a call stands in line** all places are in use. -/
theorem full_since (i : Intake) (events : List Event) {e : Nat × Nat}
    (he : e ∈ ((ofIntake i).run events).line)
    (ho : ((ofIntake i).run events).service.store.owner ≠ .stopped) :
    ∃ early late, events = early ++ late ∧ ((ofIntake i).run early).now = e.2 ∧
      ∀ k, ((ofIntake i).run (early ++ late.take k)).Full := by
  induction events using List.reverseRecOn with
  | nil => cases he
  | append_singleton events event ih =>
    have hfull : ((ofIntake i).run (events ++ [event])).Full :=
      (fair_run i _).full ho (List.ne_nil_of_mem he)
    rw [run_append_singleton] at he ho
    -- who has just come to the line has seen no moment but this one
    rcases line_act he with hold | hnew
    · obtain ⟨early, late, rfl, hnow, hall⟩ :=
        ih hold fun hstop => ho (stopped_act hstop event)
      refine ⟨early, late ++ [event], by simp, hnow, fun k => ?_⟩
      rcases Nat.lt_or_ge late.length k with hlt | hle
      · rw [List.take_of_length_le (by simp; omega), ← List.append_assoc]
        exact hfull
      · rw [List.take_append_of_le_length hle]
        exact hall k
    · refine ⟨events ++ [event], [], by simp, ?_, fun k => ?_⟩
      · rw [run_append_singleton, hnew]
      · simpa using hfull

/-! ### What the log says -/

/-- An update that is refused for want of room has looked at the clock in vain. -/
theorem exists_expire (g : Gate) (events : List Event) {id : Nat} {waited : Duration}
    (h : Note.refused id (.saturated waited) ∈ (g.run events).service.log)
    (hno : Note.refused id (.saturated waited) ∉ g.service.log) :
    ∃ before after, events = before ++ .move (.expire id) :: after ∧
      (g.run before).service.store.owner ≠ .stopped ∧ (g.run before).Overdue id := by
  induction events using List.reverseRecOn with
  | nil => exact absurd h hno
  | append_singleton events event ih =>
    by_cases hold : Note.refused id (.saturated waited) ∈ (g.run events).service.log
    · obtain ⟨before, after, rfl, halive, hover⟩ := ih hold
      exact ⟨before, after ++ [event], by simp, halive, hover⟩
    · rw [run_append_singleton] at h
      cases (g.run events).serves event with
      | rests hservice => exact absurd (hservice ▸ h) hold
      | makes move hevent hservice hexpires =>
        rw [hservice] at h
        obtain ⟨p, -, hends, -, -⟩ := (Service.refused_act h).resolve_left hold
        cases hends with
        | saturated s hmove =>
          obtain ⟨halive, hover⟩ := hexpires id hmove
          exact ⟨events, [], by rw [hevent, hmove], halive, hover⟩

/-- The intake is as large, and updates are given as much time, as has been set. -/
theorem measures_run (i : Intake) (events : List Event) :
    ((ofIntake i).run events).service.store.capacity = max i.buffer.toNat 1 ∧
      ((ofIntake i).run events).service.store.submitTimeout = i.submitTimeout := by
  refine List.foldlRecOn (motive := fun g : Gate =>
    g.service.store.capacity = max i.buffer.toNat 1 ∧
      g.service.store.submitTimeout = i.submitTimeout) events act ⟨rfl, rfl⟩ ?_
  rintro g hg event -
  cases g.serves event with
  | rests hservice => rwa [hservice]
  | makes move _ hservice _ =>
    obtain ⟨hcapacity, htimeout⟩ := Service.measures_act g.service move
    rwa [hservice, hcapacity, htimeout]

/-! ### Runs at the gate -/

theorem service_take (g : Gate) : (g.act (.move .take)).service = g.service.act .take := by
  simp only [act, take]
  split_ifs
  · exact service_handOver
  · rfl

/-- The owner has taken something as often as it could, whatever else has been done. -/
theorem takes_run {length takes : Nat} (h : Service.Takes length takes g.service)
    {more : List Event} (hcancel : Event.move .cancel ∉ more) :
    Service.Takes length (takes + more.count (.move .take)) (g.run more).service := by
  induction more generalizing g takes with
  | nil => exact h
  | cons event more ih =>
    obtain ⟨hne, hlater⟩ := not_or.1 fun h => hcancel (List.mem_cons.2 h)
    show Service.Takes _ _ ((g.act event).run more).service
    by_cases htake : event = .move .take
    · subst htake
      have hstep : Service.Takes length (takes + 1) (g.act (.move .take)).service := by
        rw [service_take]
        exact h.take
      have hcount := ih hstep hlater
      rw [List.count_cons_self]
      rwa [Nat.add_assoc, Nat.add_comm 1] at hcount
    · have hstep : Service.Takes length takes (g.act event).service := by
        cases g.serves event with
        | rests hservice => rwa [hservice]
        | makes move hevent hservice _ =>
          rw [hservice]
          exact h.act fun he => hne (by rw [hevent, he])
      rw [List.count_cons_of_ne htake]
      exact ih hstep hlater

/-- Late calls stay late. -/
theorem late_run {first : Nat} (h : Service.Late first g.service) (more : List Event) :
    Service.Late first (g.run more).service := by
  refine List.foldlRecOn (motive := fun g : Gate => Service.Late first g.service) more Gate.act h ?_
  intro g hg event _
  cases g.serves event with
  | rests hservice => rwa [hservice]
  | makes move _ hservice hexpires =>
    rw [hservice]
    exact hg.act fun id he => (hexpires id he).1 hg.stopped

/-! ### Back-pressure -/

/-- The service after some events at its gate. -/
def after (i : Intake) (events : List Event) : Service :=
  ((ofIntake i).run events).service

/-- **What an intake promises** to its callers, after some events. -/
structure BackPressure (i : Intake) (events : List Event) : Prop where
  /-- The intake never holds more than it has room for. -/
  bounded : (after i events).store.waiting.length ≤ max i.buffer.toNat 1
  /-- A place is kept only for a call that still submits. -/
  kept : ∀ id ∈ ((ofIntake i).run events).kept,
    ∃ w, (after i events).calls[id]? = some (.submitting w)
  /-- An update that is refused for want of room has had its time, and in all of it no place was
  free. -/
  saturated : ∀ id waited, .refused id (.saturated waited) ∈ (after i events).log →
    waited = i.submitTimeout ∧
      ∃ early late later, events = early ++ late ++ .move (.expire id) :: later ∧
        ((ofIntake i).run early).now + i.submitTimeout.nanos ≤
          ((ofIntake i).run (early ++ late)).now ∧
        ∀ k, ((ofIntake i).run (early ++ late.take k)).Full
  /-- A call is refused as closed only if the owner has stopped. -/
  closed : ∀ id, .refused id .closed ∈ (after i events).log →
    (after i events).store.owner = .stopped
  /-- The command of a write that is refused has not been accepted. -/
  untraced : ∀ (b id : Nat) (w : Wish) (e : StoreError),
    (after i events).log[b]? = some (.called id w) → w ≠ .snapshot →
    .refused id e ∈ (after i events).log → ∀ c, .entered id c ∉ (after i events).log
  /-- A snapshot shows what commands have done that had been accepted, -/
  shown : ∀ (k id : Nat) (states : States), (after i events).log[k]? = some (.shown id states) →
    ∃ j, j < k ∧ states = replay (accepted ((after i events).log.take j))
  /-- and so do the final states. -/
  final : ∀ states, (after i events).final = some states →
    ∃ n, states = replay ((accepted (after i events).log).take n)
  /-- A write that returns has been accepted. -/
  returned : ∀ id, .acknowledged id ∈ (after i events).log →
    ∃ c, .entered id c ∈ (after i events).log
  /-- What has been accepted before the owner starts is applied in order, one command whenever the
  owner takes one, as long as nobody tells it to stop. -/
  applied : (after i events).store.owner = .absent → (after i events).told = false →
    ∀ more, .move .cancel ∉ more →
      ∃ done, done <+: accepted (after i (events ++ .move .start :: more)).log ∧
        (after i (events ++ .move .start :: more)).store.cached = replay done ∧
        (accepted (after i events).log).take (more.count (.move .take)) <+: done
  /-- Once it has been told to stop nothing more is applied. -/
  told : (after i events).told = true → ∀ more,
    (after i (events ++ more)).store.cached = (after i events).store.cached
  /-- After the owner has stopped a call that still submits is refused as soon as it is tried, -/
  refused : (after i events).store.owner = .stopped → ∀ id w,
    (after i events).calls[id]? = some (.submitting w) →
      (after i (events ++ [.move (.press id)])).log = (after i events).log ++ [.refused id .closed]
  /-- and a call that is made then comes to no other end. -/
  late : (after i events).store.owner = .stopped → ∀ more,
    ∀ note ∈ (after i (events ++ more)).log, (after i events).calls.length ≤ note.id →
      (∃ w, note = .called note.id w) ∨ note = .refused note.id .closed

theorem sound_after (i : Intake) (events : List Event) : (after i events).Sound := by
  obtain ⟨moves, hrun, -⟩ := exists_run_service (ofIntake i) events
  rw [after, hrun]
  exact Service.sound_run i moves

theorem refusals_after (i : Intake) (events : List Event) : (after i events).Refusals := by
  obtain ⟨moves, hrun, -⟩ := exists_run_service (ofIntake i) events
  rw [after, hrun]
  exact Service.refusals_run i moves

theorem after_append (i : Intake) (events more : List Event) :
    after i (events ++ more) = (((ofIntake i).run events).run more).service := by
  rw [after, run_append]

/-- **Refused for want of room**: an update has had its time, and all the time there was none. -/
theorem full_of_saturated (i : Intake) (events : List Event) {id : Nat} {waited : Duration}
    (h : .refused id (.saturated waited) ∈ (after i events).log) :
    ∃ early late later, events = early ++ late ++ .move (.expire id) :: later ∧
      ((ofIntake i).run early).now + i.submitTimeout.nanos ≤
        ((ofIntake i).run (early ++ late)).now ∧
      ∀ k, ((ofIntake i).run (early ++ late.take k)).Full := by
  have hnew : Note.refused id (.saturated waited) ∉ (ofIntake i).service.log := List.not_mem_nil
  obtain ⟨before, later, rfl, halive, e, he, -, hover⟩ := exists_expire (ofIntake i) events h hnew
  obtain ⟨early, late, rfl, hnow, hfull⟩ := full_since i before he halive
  rw [(measures_run i _).2, ← hnow] at hover
  exact ⟨early, late, later, rfl, hover, hfull⟩

/-- **Accepted before the owner starts**: applied in order, one command whenever the owner takes
one. -/
theorem applied_of_absent (i : Intake) (events : List Event)
    (absent : (after i events).store.owner = .absent) (told : (after i events).told = false)
    {more : List Event} (hcancel : .move .cancel ∉ more) :
    ∃ done, done <+: accepted (after i (events ++ .move .start :: more)).log ∧
      (after i (events ++ .move .start :: more)).store.cached = replay done ∧
      (accepted (after i events).log).take (more.count (.move .take)) <+: done := by
  have hstart := Service.takes_start (sound_after i events) told absent
  have htakes := takes_run (g := ((ofIntake i).run events).act (.move .start)) hstart hcancel
  have hrun : after i (events ++ .move .start :: more) =
      ((((ofIntake i).run events).act (.move .start)).run more).service := after_append i events _
  obtain ⟨done, hprefix, hcached, hfirst⟩ := htakes.exists_done
  rw [← hrun] at hprefix hcached hfirst
  refine ⟨done, hprefix, hcached, ?_⟩
  -- what had been accepted before is what the history begins with
  have hlog : accepted (after i events).log <+: accepted
      (after i (events ++ .move .start :: more)).log := by
    obtain ⟨moves, hmoves, -⟩ := exists_run_service ((ofIntake i).run events) (.move .start :: more)
    rw [after_append, hmoves]
    exact Service.accepted_mono (Service.log_prefix_run _ moves)
  rw [← List.prefix_iff_eq_take.1 hlog, Nat.zero_add] at hfirst
  exact hfirst

/-- **Final states** are those of some beginning of what has been accepted. -/
theorem exists_of_final (i : Intake) (events : List Event) {states : States}
    (h : (after i events).final = some states) :
    ∃ n, states = replay ((accepted (after i events).log).take n) := by
  obtain ⟨moves, hrun, -⟩ := exists_run_service (ofIntake i) events
  have hreturned := Service.returned_run i moves
  have hrun : (Service.ofIntake i).run moves = after i events := hrun.symm
  rw [hrun, Service.Returned, h] at hreturned
  obtain ⟨n, hf⟩ := (sound_after i events).follows
  split at hreturned
  · exact ⟨n, by rw [Option.some.inj hreturned, hf.cached]⟩
  · cases hreturned

/-- **Back-pressure is exact**, whoever presses on the intake, whatever the owner does, and however
time passes. -/
theorem backPressure_run (i : Intake) (events : List Event) : BackPressure i events := by
  have hsound := sound_after i events
  have hrefusals := refusals_after i events
  refine {
    bounded := ?_
    kept := fun id hid => (fair_run i events).submitting id (List.mem_append_left _ hid)
    saturated := fun id waited h => ⟨?_, full_of_saturated i events h⟩
    closed := hrefusals.closed
    untraced := fun b id w e hcalled hw hrefused => hrefusals.untraced hsound hcalled hw hrefused
    shown := fun k id states hk => ?_
    final := fun states hfinal => exists_of_final i events hfinal
    returned := fun id hmem => ?_
    applied := fun absent told more hcancel => applied_of_absent i events absent told hcancel
    told := fun told more => ?_
    refused := fun stopped id w hphase => ?_
    late := fun stopped more => ?_ }
  · have hwithin := (fair_run i events).within
    rw [(measures_run i events).1] at hwithin
    exact Nat.le_trans (Nat.le_add_right _ _) hwithin
  · rw [hrefusals.saturated id waited h]
    exact (measures_run i events).2
  · obtain ⟨b, j, ticket, -, hjk, hstates⟩ := hsound.orderly.shown hk
    exact ⟨j, hjk, hstates⟩
  · obtain ⟨k, hk, hget⟩ := List.getElem_of_mem hmem
    obtain ⟨b, j, w, c, hentered, -, -⟩ := hsound.orderly.acknowledged
      (k := k) (by rw [List.getElem?_eq_getElem hk, hget])
    exact ⟨c, List.mem_of_getElem? hentered.entered⟩
  · obtain ⟨moves, hmoves, -⟩ := exists_run_service ((ofIntake i).run events) more
    rw [after_append, hmoves]
    exact Service.cached_run_of_told told moves
  · have hpress : after i (events ++ [.move (.press id)]) =
        (after i events).conclude id (.refused id .closed) := by
      rw [after_append, ← press_of_stopped hphase stopped]
      have hphase : ((ofIntake i).run events).service.calls[id]? = some (.submitting w) := hphase
      have hstopped : ((ofIntake i).run events).service.store.owner = .stopped := stopped
      show (((ofIntake i).run events).press id).service = _
      simp only [Gate.press, hphase, if_pos hstopped]
      rfl
    rw [hpress]
    rfl
  · rw [after_append]
    exact (late_run (Service.late_of_stopped hsound stopped) more).notes

/-- A caller caches a state, and its call returns; then the owner is told to stop before it has
begun. -/
def returnedUpdate : List Event :=
  [.move (.call (.upsert Service.fine)), .move (.press 0), .move (.collect 0)]

/-- **An update that has returned can be lost** before the owner has started. -/
theorem returned_update_lost :
    (after {} returnedUpdate).store.owner = .absent ∧
      .acknowledged 0 ∈ (after {} returnedUpdate).log ∧
      accepted (after {} returnedUpdate).log = [.upsert Service.fine] ∧
      (after {} (returnedUpdate ++ [.move .cancel, .move .start, .move .leave])).final = some ∅ ∧
      replay [.upsert Service.fine] ≠ ∅ := by
  refine ⟨rfl, ?_, rfl, rfl, by decide⟩
  show _ ∈ [Note.called 0 (.upsert Service.fine), .entered 0 (.upsert Service.fine),
    .acknowledged 0]
  simp

end Gate

end AlertRelay
