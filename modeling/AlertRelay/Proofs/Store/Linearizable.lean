/-
AlertRelay/Proofs/Store/Linearizable.lean

Calls act where their commands are accepted.

Calls overlap in any way, commands wait in the intake, and answers come late.  Still the callers
cannot tell the service from one that makes each call in an instant, namely when its command is
accepted: `Linearizes` collects what this means for the log of a service, and `linearizes_run` says
that every run has such a log.

That the order of acceptance agrees with what callers see is the point of the two last fields.  A
call that returned before another was made was accepted before it, so a snapshot shows all that its
caller, or anybody else, had been told was written, and snapshots that are taken one after another
tell one history.
-/
import AlertRelay.Proofs.Store.Ending
import AlertRelay.Proofs.Text.ByteOrder

namespace AlertRelay

namespace Service

/-- Every call of a log acts at the place where its command was accepted. -/
structure Linearizes (log : List Note) : Prop where
  /-- A call is made once. -/
  called : ∀ (b b' id : Nat) (w w' : Wish),
    log[b]? = some (.called id w) → log[b']? = some (.called id w') → b = b'
  /-- A command is accepted after its call, and once. -/
  entered : ∀ j id c, log[j]? = some (.entered id c) →
    (∃ b w, Entered log id b j w c) ∧ ∀ j' c', log[j']? = some (.entered id c') → j' = j
  /-- A write is acknowledged after it has been accepted. -/
  acknowledged : ∀ k id, log[k]? = some (.acknowledged id) →
    ∃ b j w c, Entered log id b j w c ∧ j < k ∧ w ≠ .snapshot
  /-- A snapshot shows the replay of the commands accepted before its own, by ascending bytes of the
  keys. -/
  shown : ∀ k id states, log[k]? = some (.shown id states) →
    ∃ b j ticket, Entered log id b j .snapshot (.snapshot ticket) ∧ j < k ∧
      states = replay (accepted (log.take j)) ∧
      states.keys.Pairwise fun key key' => utf8 key < utf8 key'
  /-- The history that a snapshot shows has every write acknowledged before the snapshot's call. -/
  sees : ∀ k id id' b' j' c', log[k]? = some (.acknowledged id) →
    Entered log id' b' j' .snapshot c' → k < b' →
      ∃ b j w c, Entered log id b j w c ∧
        accepted (log.take j) ++ [c] <+: accepted (log.take j')
  /-- It continues the history of every snapshot shown before the snapshot's call. -/
  continues : ∀ k id states id' b' j' c', log[k]? = some (.shown id states) →
    Entered log id' b' j' .snapshot c' → k < b' →
      ∃ b j ticket, Entered log id b j .snapshot (.snapshot ticket) ∧
        states = replay (accepted (log.take j)) ∧
        accepted (log.take j) <+: accepted (log.take j')

/-- **An orderly log** linearizes. -/
theorem Orderly.linearizes {log : List Note} (ho : Orderly log) : Linearizes log where
  called := fun b b' id w w' hb hb' => ho.called_once hb hb'
  entered := by
    intro j id c hj
    refine ⟨ho.entered hj, fun j' c' hj' => ?_⟩
    exact ho.entered_once hj' hj
  acknowledged := fun k id hk => ho.acknowledged hk
  shown := by
    intro k id states hk
    obtain ⟨b, j, ticket, he, hjk, hstates⟩ := ho.shown hk
    exact ⟨b, j, ticket, he, hjk, hstates, states.bytes_ascending⟩
  sees := by
    intro k id id' b' j' c' hk he' hkb
    obtain ⟨b, j, w, c, he, hjk, -⟩ := ho.acknowledged hk
    refine ⟨b, j, w, c, he, ?_⟩
    -- The write was accepted before it returned, and that was before the snapshot was asked for.
    have hlt : j + 1 ≤ j' := by
      have := he'.lt
      omega
    rw [← accepted_take_succ he.entered]
    exact accepted_take_mono log hlt
  continues := by
    intro k id states id' b' j' c' hk he' hkb
    obtain ⟨b, j, ticket, he, hjk, hstates⟩ := ho.shown hk
    refine ⟨b, j, ticket, he, hstates, ?_⟩
    have hle : j ≤ j' := by
      have := he'.lt
      omega
    exact accepted_take_mono log hle

theorem run_append (v : Service) (moves more : List Move) :
    v.run (moves ++ more) = (v.run moves).run more :=
  List.foldl_append

/-- **The store is linearizable**, whoever calls it in whichever order and however fast the owner
is.  What has been shown is never changed.  And an owner that nobody tells to stop returns the
states after all accepted commands, which it can do once all handles are gone. -/
theorem linearizes_run (i : Intake) (moves : List Move) :
    Linearizes ((ofIntake i).run moves).log ∧
      (∀ more, ((ofIntake i).run moves).log <+: ((ofIntake i).run (moves ++ more)).log) ∧
      (Move.cancel ∉ moves →
        (∀ states, ((ofIntake i).run moves).final = some states →
          states = replay (accepted ((ofIntake i).run moves).log)) ∧
        (((ofIntake i).run moves).handles = 0 →
          ∃ n, ((ofIntake i).run (moves ++ drain n)).final =
            some (replay (accepted ((ofIntake i).run moves).log)))) := by
  have hs := sound_run i moves
  have hr := returned_run i moves
  refine ⟨hs.orderly.linearizes, fun more => ?_, fun hm => ⟨fun states hfinal => ?_, fun hh => ?_⟩⟩
  · rw [run_append]
    exact log_prefix_run _ more
  · have hu := unforced_run i hm
    unfold Returned at hr
    rw [hfinal] at hr
    split at hr
    · rename_i hstop
      rw [Option.some.inj hr]
      exact hu.applied hstop
    · cases hr
  · have hu := unforced_run i hm
    refine ⟨((ofIntake i).run moves).store.waiting.length, ?_⟩
    rw [run_append]
    generalize (ofIntake i).run moves = v at hs hr hu hh ⊢
    have hdrain : Move.cancel ∉ drain v.store.waiting.length := by
      simp [drain, List.mem_replicate]
    have hstop := owner_run_drain hu.told hh
    have hfinal := hr.run (drain v.store.waiting.length)
    have happlied := (hu.run hs hdrain).applied hstop
    unfold Returned at hfinal
    rw [hfinal, if_pos hstop, happlied, log_run_drain hu.told]

/-- A caller caches a state, looks at what is cached, and drops the handle. -/
def observed : List Move :=
  acknowledgedUpsert ++
    [.call .snapshot, .press 1, .take, .take, .collect 1, .drop]

theorem linearizes_run_observed :
    ((ofIntake {}).run observed).log =
        [.called 0 (.upsert fine), .entered 0 (.upsert fine), .acknowledged 0,
          .called 1 .snapshot, .entered 1 (.snapshot 0), .shown 1 (replay [.upsert fine])] ∧
      Linearizes ((ofIntake {}).run observed).log ∧
      ∃ n, ((ofIntake {}).run (observed ++ drain n)).final =
        some (replay [.upsert fine, .snapshot 0]) := by
  obtain ⟨hlog, -, hend⟩ := linearizes_run {} observed
  have hm : Move.cancel ∉ observed := by decide
  exact ⟨rfl, hlog, (hend hm).2 rfl⟩

end Service

end AlertRelay
