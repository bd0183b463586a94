/-
AlertRelay/Proofs/Store/Ending.lean

What the owner of a store returns.

The owner returns what it has cached, whatever made it leave (`returned_run`).  So the question is
which commands it has applied by then, and there are two answers:

* An owner that is left alone, because all handles are gone, has applied every command that was
  ever accepted (`unforced_run`).
* An owner that is told to stop applies nothing more (`cached_run_of_told`).  What waits in the
  intake at that moment has been accepted, and is lost.  The states it returns are those after all
  accepted commands exactly if what waits would not have changed them.
-/
import AlertRelay.Proofs.Store.Orderly

namespace AlertRelay

namespace Service

/-! ### What a move does -/

/-- What becomes of everything but the handles and the phases of the calls. -/
inductive Moved (v : Service) (move : Move) (v' : Service) : Prop where
  | rests (store : v'.store = v.store) (log : v'.log = v.log) (told : v'.told = v.told)
      (final : v'.final = v.final)
  /-- Something is noted, which is not that a command was accepted. -/
  | notes (note : Note) (quiet : note.command? = none) (store : v'.store = v.store)
      (log : v'.log = v.log ++ [note]) (told : v'.told = v.told) (final : v'.final = v.final)
  | enters (id : Nat) (w : Wish)
      (store : (prepared v.store w).offer (w.command v.store.tickets) = .accepted v'.store)
      (log : v'.log = v.log ++ [.entered id (w.command v.store.tickets)])
      (told : v'.told = v.told) (final : v'.final = v.final)
  | starts (store : v'.store = v.store.start) (log : v'.log = v.log) (told : v'.told = v.told)
      (final : v'.final = v.final)
  | takes (awake : v.told = false) (store : v'.store = v.store.take) (log : v'.log = v.log)
      (told : v'.told = v.told) (final : v'.final = v.final)
  | tells (cancel : move = .cancel) (store : v'.store = v.store) (log : v'.log = v.log)
      (told : v'.told = true) (final : v'.final = v.final)
  | leaves (leaves : v.leaves) (store : v'.store = v.store.cancel) (log : v'.log = v.log)
      (told : v'.told = v.told) (final : v'.final = some v.store.cached)

theorem Moved.refl (v : Service) (move : Move) : Moved v move v :=
  .rests rfl rfl rfl rfl

/-- A call that ends leaves the store alone. -/
theorem Moved.conclude (v : Service) (move : Move) (id : Nat) {note : Note}
    (hn : note.command? = none) : Moved v move (v.conclude id note) :=
  .notes note hn rfl rfl rfl rfl

/-- **A move** does one of seven things to the store and to what can be observed. -/
theorem moved (v : Service) (move : Move) : Moved v move (v.act move) := by
  cases move with
  | clone =>
    simp only [act]
    split
    · exact .refl v _
    · exact .rests rfl rfl rfl rfl
  | drop =>
    simp only [act]
    split
    · exact .refl v _
    · exact .rests rfl rfl rfl rfl
  | call w =>
    simp only [act]
    split
    · exact .refl v _
    · exact .notes (.called v.calls.length w) rfl rfl rfl rfl rfl
  | press id =>
    simp only [act]
    split
    · rename_i w hp
      unfold submit
      cases ho : (prepared v.store w).offer (w.command v.store.tickets) with
      | accepted store => exact .enters id w ho rfl rfl rfl
      | full => exact .refl v _
      | closed => exact .conclude v _ id rfl
    · exact .refl v _
  | expire id =>
    simp only [act]
    split
    · exact .conclude v _ id rfl
    · exact .refl v _
  | abandon id => exact .rests rfl rfl rfl rfl
  | collect id =>
    simp only [act]
    split
    · exact .conclude v _ id rfl
    · unfold look
      split
      · exact .conclude v _ id rfl
      · exact .conclude v _ id rfl
      · exact .refl v _
    · exact .refl v _
  | start => exact .starts rfl rfl rfl rfl
  | take =>
    cases ht : v.told with
    | false =>
      simp only [act, ht]
      exact .takes ht rfl rfl ht.symm rfl
    | true =>
      simp only [act, ht]
      exact .refl v _
  | cancel => exact .tells rfl rfl rfl rfl rfl
  | leave =>
    simp only [act]
    split
    · rename_i hl
      exact .leaves hl rfl rfl rfl rfl
    · exact .refl v _

/-! ### What stays -/

/-- A move adds at most one note. -/
theorem log_act (v : Service) (move : Move) :
    (v.act move).log = v.log ∨ ∃ note, (v.act move).log = v.log ++ [note] := by
  cases moved v move with
  | rests _ hlog _ _ => exact .inl hlog
  | notes note _ _ hlog _ _ => exact .inr ⟨note, hlog⟩
  | enters id w _ hlog _ _ => exact .inr ⟨_, hlog⟩
  | starts _ hlog _ _ => exact .inl hlog
  | takes _ _ hlog _ _ => exact .inl hlog
  | tells _ _ hlog _ _ => exact .inl hlog
  | leaves _ _ hlog _ _ => exact .inl hlog

/-- **Notes** are never changed. -/
theorem log_prefix_run (v : Service) (moves : List Move) : v.log <+: (v.run moves).log := by
  refine List.foldlRecOn (motive := fun w => v.log <+: w.log) moves act (List.prefix_refl _) ?_
  intro w hw move _
  rcases log_act w move with hlog | ⟨note, hlog⟩
  · rw [hlog]
    exact hw
  · rw [hlog]
    exact hw.trans (List.prefix_append _ _)

/-- Nobody but `cancel` tells the owner to stop. -/
theorem told_act_of_ne (v : Service) {move : Move} (hm : move ≠ .cancel) :
    (v.act move).told = v.told := by
  cases moved v move with
  | rests _ _ htold _ => exact htold
  | notes note _ _ _ htold _ => exact htold
  | enters id w _ _ htold _ => exact htold
  | starts _ _ htold _ => exact htold
  | takes _ _ _ htold _ => exact htold
  | tells hcancel _ _ _ _ => exact absurd hcancel hm
  | leaves _ _ _ htold _ => exact htold

/-- An owner that has been told to stop stays told. -/
theorem told_act (v : Service) (move : Move) (ht : v.told = true) : (v.act move).told = true := by
  by_cases hm : move = .cancel
  · rw [hm]
    rfl
  · rw [told_act_of_ne v hm, ht]

/-! ### The owner returns what it has cached -/

/-- A store that accepts a command has the same owner and the same states as before. -/
theorem offered_prepared {s s' : Store} {w : Wish}
    (ho : (prepared s w).offer (w.command s.tickets) = .accepted s') :
    s.owner ≠ .stopped ∧ s'.owner = s.owner ∧ s'.cached = s.cached := by
  have hsame : (prepared s w).owner = s.owner ∧ (prepared s w).cached = s.cached := by
    cases w <;> exact ⟨rfl, rfl⟩
  obtain ⟨howner, -, rfl⟩ := Store.offer_eq_accepted_iff.1 ho
  rw [hsame.1] at howner
  exact ⟨howner, hsame⟩

/-- The owner has returned its states if it has stopped, and nothing before. -/
def Returned (v : Service) : Prop :=
  v.final = if v.store.owner = .stopped then some v.store.cached else none

theorem Returned.act {v : Service} (hr : v.Returned) (move : Move) : (v.act move).Returned := by
  unfold Returned at hr ⊢
  cases moved v move with
  | rests hstore _ _ hfinal => rw [hstore, hfinal, hr]
  | notes note _ hstore _ _ hfinal => rw [hstore, hfinal, hr]
  | enters id w hstore _ _ hfinal =>
    obtain ⟨-, howner, hcached⟩ := offered_prepared hstore
    rw [howner, hcached, hfinal, hr]
  | starts hstore _ _ hfinal =>
    rw [hstore, hfinal, hr, Store.start_cached]
    simp only [Store.start_owner_eq_stopped_iff]
  | takes _ hstore _ _ hfinal =>
    rw [hstore, hfinal, hr]
    rcases v.store.take_cases with ⟨heq, -⟩ | ⟨c, rest, ho, -, heq⟩
    · rw [heq]
    · -- An owner that takes something is at work, so neither side has states.
      rw [heq, if_neg (by simp [ho]), if_neg (by simp [ho])]
  | tells _ hstore _ _ hfinal => rw [hstore, hfinal, hr]
  | leaves _ hstore _ _ hfinal =>
    rw [hstore, hfinal]
    exact (if_pos rfl).symm

theorem returned_ofIntake (i : Intake) : (ofIntake i).Returned := by
  have hne : (ofIntake i).store.owner ≠ .stopped := by
    simp [ofIntake, Store.ofIntake]
  exact (if_neg hne).symm

theorem Returned.run {v : Service} (hr : v.Returned) (moves : List Move) :
    (v.run moves).Returned := by
  refine List.foldlRecOn (motive := Returned) moves Service.act hr ?_
  intro w hw move _
  exact hw.act move

/-- **The owner** returns what it has cached. -/
theorem returned_run (i : Intake) (moves : List Move) : ((ofIntake i).run moves).Returned :=
  (returned_ofIntake i).run moves

/-! ### An owner that is told to stop -/

theorem cached_act_of_told {v : Service} (ht : v.told = true) (move : Move) :
    (v.act move).store.cached = v.store.cached := by
  cases moved v move with
  | rests hstore _ _ _ => rw [hstore]
  | notes note _ hstore _ _ _ => rw [hstore]
  | enters id w hstore _ _ _ => exact (offered_prepared hstore).2.2
  | starts hstore _ _ _ => rw [hstore, Store.start_cached]
  | takes hawake _ _ _ _ =>
    rw [ht] at hawake
    cases hawake
  | tells _ hstore _ _ _ => rw [hstore]
  | leaves _ hstore _ _ _ =>
    rw [hstore]
    rfl

/-- **An owner that has been told to stop** applies nothing more. -/
theorem cached_run_of_told {v : Service} (ht : v.told = true) (moves : List Move) :
    (v.run moves).store.cached = v.store.cached := by
  have hrun : (v.run moves).told = true ∧ (v.run moves).store.cached = v.store.cached := by
    refine List.foldlRecOn (motive := fun w => w.told = true ∧ w.store.cached = v.store.cached)
      moves act ⟨ht, rfl⟩ ?_
    rintro w ⟨hw, hcached⟩ move -
    exact ⟨told_act w move hw, (cached_act_of_told hw move).trans hcached⟩
  exact hrun.2

/-! ### An owner that is left alone -/

/-- Nobody has told the owner to stop, and if it has stopped it had applied everything. -/
structure Unforced (v : Service) : Prop where
  told : v.told = false
  applied : v.store.owner = .stopped → v.store.cached = replay (accepted v.log)

theorem Unforced.act {v : Service} (hu : Unforced v) (hs : Sound v) {move : Move}
    (hm : move ≠ .cancel) : Unforced (v.act move) where
  told := (told_act_of_ne v hm).trans hu.told
  applied := by
    intro hstop
    cases moved v move with
    | rests hstore hlog _ _ =>
      rw [hstore] at hstop ⊢
      rw [hlog]
      exact hu.applied hstop
    | notes note hquiet hstore hlog _ _ =>
      rw [hstore] at hstop ⊢
      rw [hlog, accepted_append_of_none _ hquiet]
      exact hu.applied hstop
    | enters id w hstore _ _ _ =>
      obtain ⟨hrun, howner, -⟩ := offered_prepared hstore
      exact absurd (howner ▸ hstop) hrun
    | starts hstore hlog _ _ =>
      rw [hstore, Store.start_owner_eq_stopped_iff] at hstop
      rw [hstore, hlog, Store.start_cached]
      exact hu.applied hstop
    | takes _ hstore hlog _ _ =>
      rw [hstore] at hstop ⊢
      rw [hlog]
      rcases v.store.take_cases with ⟨heq, -⟩ | ⟨c, rest, ho, -, heq⟩
      · rw [heq] at hstop ⊢
        exact hu.applied hstop
      · rw [heq] at hstop
        exact absurd hstop (by simp [ho])
    | tells hcancel _ _ _ _ => exact absurd hcancel hm
    | leaves hleaves hstore hlog _ _ =>
      -- It was not told, so it left because nothing waited.
      obtain ⟨howner, htold | ⟨-, hwaiting⟩⟩ := hleaves
      · rw [hu.told] at htold
        cases htold
      · obtain ⟨n, hf⟩ := hs.follows
        have hn : n = (accepted v.log).length := hf.eq_length (by simp [howner]) hwaiting
        rw [hstore, hlog]
        show v.store.cached = _
        rw [hf.cached, hn, List.take_length]

theorem Unforced.run {v : Service} (hu : Unforced v) (hs : Sound v) {moves : List Move}
    (hm : Move.cancel ∉ moves) : Unforced (v.run moves) := by
  have hrun : Unforced (v.run moves) ∧ Sound (v.run moves) := by
    refine List.foldlRecOn (motive := fun w => Unforced w ∧ Sound w) moves Service.act ⟨hu, hs⟩ ?_
    rintro w ⟨hwu, hws⟩ move hmem
    have hne : move ≠ .cancel := fun he => hm (he ▸ hmem)
    exact ⟨hwu.act hws hne, hws.act move⟩
  exact hrun.1

theorem unforced_run (i : Intake) {moves : List Move} (hm : Move.cancel ∉ moves) :
    Unforced ((ofIntake i).run moves) := by
  refine Unforced.run ⟨rfl, fun ho => ?_⟩ (sound_ofIntake i) hm
  simp [ofIntake, Store.ofIntake] at ho

/-- The states of an owner that nobody has told to stop are those after the accepted commands that
do not wait. -/
theorem Unforced.split {v : Service} (hu : Unforced v) (hs : Sound v) :
    ∃ done, accepted v.log = done ++ v.store.waiting ∧ v.store.cached = replay done := by
  obtain ⟨n, hf⟩ := hs.follows
  by_cases ho : v.store.owner = .stopped
  · refine ⟨accepted v.log, ?_, hu.applied ho⟩
    rw [hf.forgotten ho, List.append_nil]
  · refine ⟨(accepted v.log).take n, ?_, hf.cached⟩
    rw [hf.waiting ho, List.take_append_drop]

/-! ### Draining -/

/-- The owner starts, takes so many commands, and leaves if it can. -/
def drain (n : Nat) : List Move :=
  .start :: (List.replicate n .take ++ [.leave])

theorem run_takes {v : Service} (ht : v.told = false) (n : Nat) :
    v.run (List.replicate n .take) = { v with store := v.store.takeMany n } := by
  induction n generalizing v with
  | zero => rfl
  | succ n ih =>
    have hact : v.act .take = { v with store := v.store.take } := by
      simp [act, ht]
    have htail := ih (v := { v with store := v.store.take }) ht
    show (v.act .take).run (List.replicate n .take) = _
    rw [hact, htail]
    rfl

/-- What is left to do for an owner that drains what waits: to leave. -/
theorem run_drain_eq {v : Service} (ht : v.told = false) (n : Nat) :
    v.run (drain n) = act { v with store := v.store.start.takeMany n } .leave := by
  have htakes := run_takes (v := v.act .start) ht n
  show (v.act .start).run (List.replicate n .take ++ [.leave]) = _
  rw [run, List.foldl_append]
  show ((v.act .start).run (List.replicate n .take)).act .leave = _
  rw [htakes]
  rfl

/-- Draining is no call, so it is not noted. -/
theorem log_run_drain {v : Service} (ht : v.told = false) (n : Nat) :
    (v.run (drain n)).log = v.log := by
  rw [run_drain_eq ht]
  simp only [act]
  split <;> rfl

/-- **Once all handles are gone** the owner can take what waits and leave. -/
theorem owner_run_drain {v : Service} (ht : v.told = false) (hh : v.handles = 0) :
    (v.run (drain v.store.waiting.length)).store.owner = .stopped := by
  have hsettle : v.store.start.takeMany v.store.waiting.length = v.store.start.settle := by
    rw [Store.settle, Store.start_waiting]
  rw [run_drain_eq ht, hsettle]
  by_cases hrun : v.store.start.owner = .running
  · have hl : leaves { v with store := v.store.start.settle } := by
      refine ⟨?_, .inr ⟨hh, Store.settle_waiting hrun⟩⟩
      show v.store.start.settle.owner = .running
      rw [Store.settle, Store.takeMany_owner, hrun]
    simp only [act]
    rw [if_pos hl]
    rfl
  · have hstop : v.store.start.owner = .stopped :=
      (Store.start_owner_eq_stopped_iff _).2 (Store.owner_eq_stopped_of_start hrun)
    have hl : ¬ leaves { v with store := v.store.start.settle } := by
      rintro ⟨ho, -⟩
      have ho : v.store.start.settle.owner = .running := ho
      rw [Store.settle, Store.takeMany_owner, hstop] at ho
      cases ho
    simp only [act]
    rw [if_neg hl]
    show v.store.start.settle.owner = .stopped
    rw [Store.settle, Store.takeMany_owner, hstop]

/-! ### What a shutdown loses -/

/-- An owner that has been told to stop leaves when it gets to it. -/
theorem owner_start_leave_of_told {v : Service} (ht : v.told = true) :
    (v.run [.start, .leave]).store.owner = .stopped := by
  show ((v.act .start).act .leave).store.owner = .stopped
  by_cases hl : (v.act .start).leaves
  · have hact : (v.act .start).act .leave =
        { v.act .start with
          store := (v.act .start).store.cancel
          final := some (v.act .start).store.cached } := if_pos hl
    rw [hact]
    rfl
  · have hact : (v.act .start).act .leave = v.act .start := if_neg hl
    rw [hact]
    show v.store.start.owner = .stopped
    rw [Store.start_owner_eq_stopped_iff]
    exact Store.owner_eq_stopped_of_start fun hrun => hl ⟨hrun, .inl ht⟩

/-- **The states after a shutdown** are those after the commands that the owner had applied when it
was told to stop, whatever happens until it leaves.  What waited then is lost, so they are the
states after all accepted commands exactly if under every key what waited says last what stands
there anyway. -/
theorem final_of_cancel (i : Intake) {before : List Move} (hb : Move.cancel ∉ before) :
    ∃ done, accepted ((ofIntake i).run before).log =
        done ++ ((ofIntake i).run before).store.waiting ∧
      (∀ after m, ((((ofIntake i).run before).act .cancel).run after).final = some m →
        m = replay done) ∧
      ((((ofIntake i).run before).act .cancel).run [.start, .leave]).final = some (replay done) ∧
      (replay done = replay (accepted ((ofIntake i).run before).log) ↔
        ∀ key word, lastWord key ((ofIntake i).run before).store.waiting = some word →
          (replay done).get? key = word) := by
  have hs := sound_run i before
  have hr := returned_run i before
  have hu := unforced_run i hb
  generalize (ofIntake i).run before = v at hs hr hu ⊢
  obtain ⟨done, hsplit, hcached⟩ := hu.split hs
  have hkept : ∀ after, ((v.act .cancel).run after).store.cached = replay done := by
    intro after
    rw [cached_run_of_told rfl after]
    exact hcached
  have hreturned : ∀ after, ((v.act .cancel).run after).Returned := fun after =>
    (hr.act .cancel).run after
  refine ⟨done, hsplit, fun after m hm => ?_, ?_, ?_⟩
  · have := hreturned after
    unfold Returned at this
    rw [hm, hkept] at this
    split at this
    · exact Option.some.inj this
    · cases this
  · have := hreturned [.start, .leave]
    unfold Returned at this
    rw [this, if_pos (owner_start_leave_of_told rfl), hkept]
  · rw [hsplit, eq_comm]
    exact replay_append_eq_iff done v.store.waiting

/-- A state that is believed for five minutes. -/
def fine : CachedState :=
  ⟨.service "web1" "ping" "ok" "fine" 1700000000, 300⟩

/-- A caller caches a state, and its call returns. -/
def acknowledgedUpsert : List Move :=
  [.start, .call (.upsert fine), .press 0, .collect 0]

theorem final_of_cancel_acknowledgedUpsert :
    ∃ done, accepted ((ofIntake {}).run acknowledgedUpsert).log = done ++ [.upsert fine] ∧
      (∀ after m, ((((ofIntake {}).run acknowledgedUpsert).act .cancel).run after).final = some m →
        m = replay done) ∧
      ((((ofIntake {}).run acknowledgedUpsert).act .cancel).run [.start, .leave]).final =
        some (replay done) ∧
      (replay done = replay (accepted ((ofIntake {}).run acknowledgedUpsert).log) ↔
        ∀ key word, lastWord key [.upsert fine] = some word → (replay done).get? key = word) :=
  final_of_cancel {} (by decide)

/-- **An acknowledged state can be lost**: its call has returned, then the owner is told to stop,
and what the owner returns lacks it. -/
theorem acknowledged_upsert_lost :
    Note.acknowledged 0 ∈ ((ofIntake {}).run acknowledgedUpsert).log ∧
      accepted ((ofIntake {}).run acknowledgedUpsert).log = [.upsert fine] ∧
      ((((ofIntake {}).run acknowledgedUpsert).act .cancel).run [.leave]).final = some ∅ ∧
      replay [.upsert fine] ≠ ∅ := by
  refine ⟨?_, rfl, rfl, by decide⟩
  show _ ∈ [Note.called 0 (.upsert fine), .entered 0 (.upsert fine), .acknowledged 0]
  simp

end Service

end AlertRelay
