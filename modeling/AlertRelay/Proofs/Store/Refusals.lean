/-
AlertRelay/Proofs/Store/Refusals.lean

What becomes of a call that is refused.

`Moved` looks at the store and forgets whose call a note is about.  Here it is the other way round
(`Turned`): a move makes a new call, or gets one call a step further, and a call that is over gets
no further.

So a call that has been refused is over.  If it was to write something, its command was not accepted
before, and it never will be: nothing of it is in the history that snapshots and the final states
are made of (`Refusals.untraced`).  A call is refused as closed only after the owner has stopped.
-/
import AlertRelay.Proofs.Store.Ending

namespace AlertRelay

namespace Service

/-! ### What a move does to the calls -/

/-- How a call ends, from a phase with a note. -/
inductive Ends (v : Service) (move : Move) (id : Nat) : Phase → Note → Prop where
  | acknowledged : Ends v move id .written (.acknowledged id)
  | shown (ticket : Nat) (states : States) : Ends v move id (.awaiting ticket) (.shown id states)
  | saturated (s : CachedState) (expires : move = .expire id) :
      Ends v move id (.submitting (.upsert s)) (.refused id (.saturated v.store.submitTimeout))
  | closed (w : Wish) (presses : move = .press id) (stopped : v.store.owner = .stopped) :
      Ends v move id (.submitting w) (.refused id .closed)
  | unanswered (ticket : Nat) (stopped : v.store.owner = .stopped) :
      Ends v move id (.awaiting ticket) (.refused id .closed)

/-- What becomes of the calls. -/
inductive Turned (v : Service) (move : Move) (v' : Service) : Prop where
  | rests (calls : v'.calls = v.calls) (log : v'.log = v.log)
  | abandons (id : Nat) (abandons : move = .abandon id)
      (calls : v'.calls = v.calls.set id .ended) (log : v'.log = v.log)
  | begins (w : Wish) (calls : v'.calls = v.calls ++ [.submitting w])
      (log : v'.log = v.log ++ [.called v.calls.length w])
  | enters (id : Nat) (w : Wish) (presses : move = .press id)
      (phase : v.calls[id]? = some (.submitting w)) (alive : v.store.owner ≠ .stopped)
      (calls : v'.calls = v.calls.set id (.afterwards v.store.tickets w))
      (log : v'.log = v.log ++ [.entered id (w.command v.store.tickets)])
  | ends (id : Nat) (p : Phase) (note : Note) (phase : v.calls[id]? = some p)
      (ends : Ends v move id p note) (calls : v'.calls = v.calls.set id .ended)
      (log : v'.log = v.log ++ [note])

/-- An answer that is an error is the error of a store that is closed. -/
theorem closed_of_answerTo_error {s : Store} {ticket : Nat} {e : StoreError}
    (h : s.answerTo ticket = .ended (.error e)) : e = .closed := by
  unfold Store.answerTo at h
  split at h
  · cases h
  · split at h
    · cases h
      rfl
    · cases h

/-- **A move** does one of five things to the calls. -/
theorem turned (v : Service) (move : Move) : Turned v move (v.act move) := by
  cases move with
  | clone =>
    simp only [act]
    split <;> exact .rests rfl rfl
  | drop =>
    simp only [act]
    split <;> exact .rests rfl rfl
  | call w =>
    simp only [act]
    split
    · exact .rests rfl rfl
    · exact .begins w rfl rfl
  | press id =>
    simp only [act]
    split
    · rename_i w hp
      unfold submit
      cases ho : (prepared v.store w).offer (w.command v.store.tickets) with
      | accepted store => exact .enters id w rfl hp (offered_prepared ho).1 rfl rfl
      | full => exact .rests rfl rfl
      | closed =>
        have hstop : v.store.owner = .stopped := by
          have := Store.offer_eq_closed_iff.1 ho
          cases w <;> exact this
        exact .ends id _ _ hp (.closed w rfl hstop) rfl rfl
    · exact .rests rfl rfl
  | expire id =>
    simp only [act]
    split
    · rename_i s hp
      exact .ends id _ _ hp (.saturated s rfl) rfl rfl
    · exact .rests rfl rfl
  | abandon id => exact .abandons id rfl rfl rfl
  | collect id =>
    simp only [act]
    split
    · rename_i hp
      exact .ends id _ _ hp .acknowledged rfl rfl
    · rename_i ticket hp
      unfold look
      split
      · rename_i states _
        exact .ends id _ _ hp (.shown ticket states) rfl rfl
      · rename_i e he
        obtain rfl := closed_of_answerTo_error he
        exact .ends id _ _ hp (.unanswered ticket (Store.owner_of_answerTo_error he)) rfl rfl
      · exact .rests rfl rfl
    · exact .rests rfl rfl
  | start => exact .rests rfl rfl
  | take =>
    simp only [act]
    split <;> exact .rests rfl rfl
  | cancel => exact .rests rfl rfl
  | leave =>
    simp only [act]
    split <;> exact .rests rfl rfl

/-! ### Owners that have stopped -/

/-- An owner that has stopped never starts again. -/
theorem stopped_act {v : Service} (h : v.store.owner = .stopped) (move : Move) :
    (v.act move).store.owner = .stopped := by
  cases moved v move with
  | rests hstore _ _ _ => rw [hstore, h]
  | notes note _ hstore _ _ _ => rw [hstore, h]
  | enters id w hstore _ _ _ => exact absurd h (offered_prepared hstore).1
  | starts hstore _ _ _ =>
    rw [hstore]
    exact (Store.start_owner_eq_stopped_iff _).2 h
  | takes _ hstore _ _ _ => rw [hstore, Store.take_owner, h]
  | tells _ hstore _ _ _ => rw [hstore, h]
  | leaves _ hstore _ _ _ =>
    rw [hstore]
    rfl

/-- The intake never changes its size, nor the time that an update is given. -/
theorem measures_act (v : Service) (move : Move) :
    (v.act move).store.capacity = v.store.capacity ∧
      (v.act move).store.submitTimeout = v.store.submitTimeout := by
  cases moved v move with
  | rests hstore _ _ _ => rw [hstore]; exact ⟨rfl, rfl⟩
  | notes note _ hstore _ _ _ => rw [hstore]; exact ⟨rfl, rfl⟩
  | enters id w hstore _ _ _ =>
    obtain ⟨-, -, heq⟩ := Store.offer_eq_accepted_iff.1 hstore
    rw [heq]
    cases w <;> exact ⟨rfl, rfl⟩
  | starts hstore _ _ _ =>
    rw [hstore, Store.start]
    split <;> exact ⟨rfl, rfl⟩
  | takes _ hstore _ _ _ =>
    rw [hstore, Store.take]
    split <;> exact ⟨rfl, rfl⟩
  | tells _ hstore _ _ _ => rw [hstore]; exact ⟨rfl, rfl⟩
  | leaves _ hstore _ _ _ => rw [hstore]; exact ⟨rfl, rfl⟩

/-- A call that is over stays so. -/
theorem over_act {v : Service} {id : Nat} (h : v.calls[id]? = some .ended) (move : Move) :
    (v.act move).calls[id]? = some .ended := by
  have hset : ∀ id', (v.calls.set id' .ended)[id]? = some .ended := by
    intro id'
    rw [List.getElem?_set]
    split_ifs with he hlt
    · rfl
    · rw [he] at hlt
      exact absurd (List.getElem?_eq_some_iff.1 h).1 hlt
    · exact h
  cases turned v move with
  | rests hcalls _ => rw [hcalls, h]
  | abandons id' _ hcalls _ => rw [hcalls, hset]
  | begins w hcalls _ =>
    rw [hcalls, List.getElem?_append_left (List.getElem?_eq_some_iff.1 h).1, h]
  | enters id' w _ hphase _ hcalls _ =>
    -- whoever submits is not over
    have hne : id' ≠ id := by
      rintro rfl
      rw [h] at hphase
      cases hphase
    rw [hcalls, List.getElem?_set_ne hne, h]
  | ends id' p note _ _ hcalls _ => rw [hcalls, hset]

/-- A call that submits goes on with it until it is tried, gives up or is given up. -/
theorem submitting_act {v : Service} {id : Nat} {w : Wish}
    (h : v.calls[id]? = some (.submitting w)) {move : Move} (hpress : move ≠ .press id)
    (hexpire : move ≠ .expire id) (habandon : move ≠ .abandon id) :
    (v.act move).calls[id]? = some (.submitting w) := by
  cases turned v move with
  | rests hcalls _ => rw [hcalls, h]
  | abandons id' hmove hcalls _ =>
    have hne : id' ≠ id := fun he => habandon (he ▸ hmove)
    rw [hcalls, List.getElem?_set_ne hne, h]
  | begins w' hcalls _ =>
    rw [hcalls, List.getElem?_append_left (List.getElem?_eq_some_iff.1 h).1, h]
  | enters id' w' hmove _ _ hcalls _ =>
    have hne : id' ≠ id := fun he => hpress (he ▸ hmove)
    rw [hcalls, List.getElem?_set_ne hne, h]
  | ends id' p note hphase hends hcalls _ =>
    have hne : id' ≠ id := by
      rintro rfl
      rw [h] at hphase
      cases hphase
      cases hends with
      | saturated s hmove => exact hexpire hmove
      | closed w' hmove _ => exact hpress hmove
    rw [hcalls, List.getElem?_set_ne hne, h]

/-! ### Refusals -/

/-- A refusal is an old one, or ends its call now. -/
theorem refused_act {v : Service} {move : Move} {id : Nat} {e : StoreError}
    (h : Note.refused id e ∈ (v.act move).log) : Note.refused id e ∈ v.log ∨
      ∃ p, v.calls[id]? = some p ∧ Ends v move id p (.refused id e) ∧
        (v.act move).calls = v.calls.set id .ended ∧
        (v.act move).log = v.log ++ [.refused id e] := by
  cases turned v move with
  | rests _ hlog => exact .inl (hlog ▸ h)
  | abandons _ _ _ hlog => exact .inl (hlog ▸ h)
  | begins w _ hlog =>
    rw [hlog] at h
    exact .inl (by simpa using h)
  | enters id' w _ _ _ _ hlog =>
    rw [hlog] at h
    exact .inl (by simpa using h)
  | ends id' p note hphase hends hcalls hlog =>
    rw [hlog] at h
    rcases List.mem_append.1 h with h | h
    · exact .inl h
    · obtain rfl := List.mem_singleton.1 h
      have hid : id' = id := by cases hends <;> rfl
      subst hid
      exact .inr ⟨p, hphase, hends, hcalls, hlog⟩

/-- A command that is said to be accepted was so before, or its call submits it now. -/
theorem entered_act {v : Service} {move : Move} {id : Nat} {c : Command}
    (h : Note.entered id c ∈ (v.act move).log) : Note.entered id c ∈ v.log ∨
      ∃ w, v.calls[id]? = some (.submitting w) ∧
        (v.act move).log = v.log ++ [.entered id c] := by
  cases turned v move with
  | rests _ hlog => exact .inl (hlog ▸ h)
  | abandons _ _ _ hlog => exact .inl (hlog ▸ h)
  | begins w _ hlog =>
    rw [hlog] at h
    exact .inl (by simpa using h)
  | enters id' w _ hphase _ _ hlog =>
    rw [hlog] at h
    rcases List.mem_append.1 h with h | h
    · exact .inl h
    · cases List.mem_singleton.1 h
      exact .inr ⟨w, hphase, hlog⟩
  | ends id' p note _ hends _ hlog =>
    rw [hlog] at h
    rcases List.mem_append.1 h with h | h
    · exact .inl h
    · rw [← List.mem_singleton.1 h] at hends
      cases hends

/-- What the log says about refusals. -/
structure Refusals (v : Service) : Prop where
  /-- A call that has been refused is over. -/
  concluded : ∀ id e, Note.refused id e ∈ v.log → v.calls[id]? = some .ended
  /-- If its command has been accepted, it was a question. -/
  asked : ∀ id e c, Note.refused id e ∈ v.log → Note.entered id c ∈ v.log →
    ∃ ticket, c = .snapshot ticket
  closed : ∀ id, Note.refused id .closed ∈ v.log → v.store.owner = .stopped
  saturated : ∀ id waited, Note.refused id (.saturated waited) ∈ v.log →
    waited = v.store.submitTimeout

variable {v : Service}

theorem refusals_ofIntake (i : Intake) : Refusals (ofIntake i) where
  concluded := by simp [ofIntake]
  asked := by simp [ofIntake]
  closed := by simp [ofIntake]
  saturated := by simp [ofIntake]

/-- A call that is refused now was not accepted, or it was a question. -/
theorem Sound.asked_of_ends (hs : Sound v) {move : Move} {id : Nat} {p : Phase} {e : StoreError}
    {c : Command} (hphase : v.calls[id]? = some p)
    (hends : Ends v move id p (.refused id e)) (hc : Note.entered id c ∈ v.log) :
    ∃ ticket, c = .snapshot ticket := by
  have hrecorded := hs.recorded id p hphase
  cases hends with
  | saturated s _ => exact absurd hc (hrecorded.2 c)
  | closed w _ _ => exact absurd hc (hrecorded.2 c)
  | unanswered ticket _ =>
    -- the log has one command of this call, and that is its question
    obtain ⟨b, j, hentered⟩ := hrecorded
    obtain ⟨j', hj', hget⟩ := List.getElem_of_mem hc
    have hget : v.log[j']? = some (.entered id c) := by
      rw [List.getElem?_eq_getElem hj', hget]
    have hsame := hentered.entered
    rw [← hs.orderly.entered_once hget hsame, hget] at hsame
    cases hsame
    exact ⟨ticket, rfl⟩

theorem Refusals.act (hr : Refusals v) (hs : Sound v) (move : Move) : Refusals (v.act move) where
  concluded := by
    intro id e h
    rcases refused_act h with h | ⟨p, hphase, -, hcalls, -⟩
    · exact over_act (hr.concluded id e h) move
    · rw [hcalls, List.getElem?_set_self (List.getElem?_eq_some_iff.1 hphase).1]
  asked := by
    intro id e c h hc
    rcases refused_act h with h | ⟨p, hphase, hends, -, hlog⟩
    · rcases entered_act hc with hc | ⟨w, hphase, -⟩
      · exact hr.asked id e c h hc
      · -- a call that is over submits nothing
        rw [hr.concluded id e h] at hphase
        cases hphase
    · rw [hlog] at hc
      exact hs.asked_of_ends hphase hends (by simpa using hc)
  closed := by
    intro id h
    refine stopped_act ?_ move
    rcases refused_act h with h | ⟨p, -, hends, -, -⟩
    · exact hr.closed id h
    · cases hends with
      | closed _ _ stopped => exact stopped
      | unanswered _ stopped => exact stopped
  saturated := by
    intro id waited h
    rw [(measures_act v move).2]
    rcases refused_act h with h | ⟨p, -, hends, -, -⟩
    · exact hr.saturated id waited h
    · cases hends
      rfl

theorem Refusals.run (hr : Refusals v) (hs : Sound v) (moves : List Move) :
    Refusals (v.run moves) := by
  have hrun : Refusals (v.run moves) ∧ Sound (v.run moves) := by
    refine List.foldlRecOn (motive := fun w => Refusals w ∧ Sound w) moves Service.act ⟨hr, hs⟩ ?_
    rintro w ⟨hwr, hws⟩ move -
    exact ⟨hwr.act hws move, hws.act move⟩
  exact hrun.1

/-- **Refusals** of a run are what they should be. -/
theorem refusals_run (i : Intake) (moves : List Move) : Refusals ((ofIntake i).run moves) :=
  (refusals_ofIntake i).run (sound_ofIntake i) moves

/-- **A refused write** is in no history: its command has not been accepted. -/
theorem Refusals.untraced (hr : Refusals v) (hs : Sound v) {b id : Nat} {w : Wish} {e : StoreError}
    (hcalled : v.log[b]? = some (.called id w)) (hw : w ≠ .snapshot)
    (hrefused : Note.refused id e ∈ v.log) (c : Command) : Note.entered id c ∉ v.log := by
  intro hc
  obtain ⟨ticket, rfl⟩ := hr.asked id e c hrefused hc
  obtain ⟨j, hj, hget⟩ := List.getElem_of_mem hc
  have hget : v.log[j]? = some (.entered id (.snapshot ticket)) := by
    rw [List.getElem?_eq_getElem hj, hget]
  obtain ⟨b', w', hentered⟩ := hs.orderly.entered hget
  have hsame := hentered.called
  rw [← hs.orderly.called_once hcalled hsame, hcalled] at hsame
  cases hsame
  obtain ⟨ticket', hcommand⟩ := hentered.command
  cases w with
  | upsert s => cases hcommand
  | tombstone key => cases hcommand
  | snapshot => exact hw rfl

end Service

end AlertRelay
