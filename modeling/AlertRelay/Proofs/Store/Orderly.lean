/-
AlertRelay/Proofs/Store/Orderly.lean

What the log of a service is like.

`Orderly` says of each note that the notes before it admit it:

* a call is made once and its command is accepted at most once, after the call;
* a write is acknowledged after its command has been accepted;
* what a snapshot shows is the replay of the commands accepted before its own.

The invariant of a run (`Sound`) is that the log is orderly, that it knows how far each call has
come, and that the store follows the commands that the log says were accepted.  A move adds at most
one note, so one lemma about a call that ends (`Sound.conclude`) and one about a command that is
accepted (`Sound.submit`) cover the moves that matter; the others leave the log alone.
-/
import AlertRelay.Proofs.Store.Service

namespace AlertRelay

namespace Service

/-! ### Accepted commands of a log and of its beginnings -/

theorem accepted_append (log more : List Note) :
    accepted (log ++ more) = accepted log ++ accepted more :=
  List.filterMap_append

theorem accepted_append_of_none (log : List Note) {note : Note} (hn : note.command? = none) :
    accepted (log ++ [note]) = accepted log := by
  rw [accepted_append]
  simp [accepted, hn]

theorem accepted_append_entered (log : List Note) (id : Nat) (c : Command) :
    accepted (log ++ [.entered id c]) = accepted log ++ [c] := by
  rw [accepted_append]
  rfl

theorem accepted_mono {log more : List Note} (h : log <+: more) : accepted log <+: accepted more :=
  h.filterMap _

theorem accepted_take_mono (log : List Note) {j k : Nat} (hjk : j ≤ k) :
    accepted (log.take j) <+: accepted (log.take k) :=
  accepted_mono (List.take_prefix_take_left hjk)

/-- The commands accepted before a note are the first of all. -/
theorem take_accepted (log : List Note) (j : Nat) :
    (accepted log).take (accepted (log.take j)).length = accepted (log.take j) :=
  (List.prefix_iff_eq_take.1 (accepted_mono (List.take_prefix j log))).symm

/-- The commands accepted up to a command, with it. -/
theorem accepted_take_succ {log : List Note} {j id : Nat} {c : Command}
    (hj : log[j]? = some (.entered id c)) :
    accepted (log.take (j + 1)) = accepted (log.take j) ++ [c] := by
  rw [List.take_add_one, hj]
  exact accepted_append_entered _ id c

/-- The command that a note says was accepted comes right after those accepted before. -/
theorem accepted_getElem? {log : List Note} {j id : Nat} {c : Command}
    (hj : log[j]? = some (.entered id c)) :
    (accepted log)[(accepted (log.take j)).length]? = some c := by
  have hpre : accepted (log.take (j + 1)) <+: accepted log :=
    accepted_mono (List.take_prefix _ _)
  obtain ⟨rest, hrest⟩ := hpre
  rw [← hrest, accepted_take_succ hj]
  simp

/-! ### Orderly logs -/

/-- Call `id` was made at `b`, and its command was accepted at `j`. -/
structure Entered (log : List Note) (id b j : Nat) (w : Wish) (c : Command) : Prop where
  lt : b < j
  called : log[b]? = some (.called id w)
  entered : log[j]? = some (.entered id c)
  command : ∃ ticket, c = w.command ticket

/-- What a note requires of the notes before it. -/
def Admits (log : List Note) : Note → Prop
  | .called id _ => ∀ note ∈ log, note.id ≠ id
  | .entered id c =>
    (∃ (b : Nat) (w : Wish) (ticket : Nat),
        log[b]? = some (.called id w) ∧ c = w.command ticket) ∧
      ∀ d, Note.entered id d ∉ log
  | .acknowledged id => ∃ b j w c, Entered log id b j w c ∧ w ≠ .snapshot
  | .shown id states =>
    ∃ b j ticket, Entered log id b j .snapshot (.snapshot ticket) ∧
      states = replay (accepted (log.take j))
  | .refused _ _ => True

/-- Each note is admitted by those before it. -/
def Orderly (log : List Note) : Prop :=
  ∀ k note, log[k]? = some note → Admits (log.take k) note

theorem Entered.append {log : List Note} {id b j : Nat} {w : Wish} {c : Command}
    (he : Entered log id b j w c) (more : List Note) : Entered (log ++ more) id b j w c where
  lt := he.lt
  called := by
    rw [List.getElem?_append_left (List.getElem?_eq_some_iff.1 he.called).1, he.called]
  entered := by
    rw [List.getElem?_append_left (List.getElem?_eq_some_iff.1 he.entered).1, he.entered]
  command := he.command

theorem Entered.of_take {log : List Note} {k id b j : Nat} {w : Wish} {c : Command}
    (he : Entered (log.take k) id b j w c) : Entered log id b j w c ∧ j < k := by
  have hj : j < k := by
    have := (List.getElem?_eq_some_iff.1 he.entered).1
    simp at this
    omega
  refine ⟨⟨he.lt, ?_, ?_, he.command⟩, hj⟩
  · rw [← he.called, List.getElem?_take_of_lt (Nat.lt_trans he.lt hj)]
  · rw [← he.entered, List.getElem?_take_of_lt hj]

theorem orderly_nil : Orderly [] := by
  intro k note hk
  simp at hk

theorem Orderly.append {log : List Note} (ho : Orderly log) {note : Note}
    (hn : Admits log note) : Orderly (log ++ [note]) := by
  intro k n hk
  rcases getElem?_append_singleton_eq_some hk with hold | ⟨rfl, rfl⟩
  · have hlt : k < log.length := (List.getElem?_eq_some_iff.1 hold).1
    rw [List.take_append_of_le_length (Nat.le_of_lt hlt)]
    exact ho k n hold
  · rw [List.take_left]
    exact hn

/-- A note of a log is among the first `k` if it stands before place `k`. -/
theorem mem_take_of_lt {log : List Note} {j k : Nat} {note : Note} (hjk : j < k)
    (hj : log[j]? = some note) : note ∈ log.take k :=
  List.mem_of_getElem? (by rw [List.getElem?_take_of_lt hjk, hj])

/-- **A command** is accepted after its call. -/
theorem Orderly.entered {log : List Note} (ho : Orderly log) {j id : Nat} {c : Command}
    (hj : log[j]? = some (.entered id c)) : ∃ b w, Entered log id b j w c := by
  obtain ⟨⟨b, w, ticket, hb, hc⟩, -⟩ := ho j _ hj
  have hbj : b < j := by
    have := (List.getElem?_eq_some_iff.1 hb).1
    simp at this
    omega
  rw [List.getElem?_take_of_lt hbj] at hb
  exact ⟨b, w, hbj, hb, hj, ticket, hc⟩

/-- A call is made once. -/
theorem Orderly.called_once {log : List Note} (ho : Orderly log) {b b' id : Nat} {w w' : Wish}
    (hb : log[b]? = some (.called id w)) (hb' : log[b']? = some (.called id w')) : b = b' := by
  rcases Nat.lt_trichotomy b b' with hlt | heq | hgt
  · exact absurd rfl (ho b' _ hb' _ (mem_take_of_lt hlt hb))
  · exact heq
  · exact absurd rfl (ho b _ hb _ (mem_take_of_lt hgt hb'))

/-- The command of a call is accepted at most once. -/
theorem Orderly.entered_once {log : List Note} (ho : Orderly log) {j j' id : Nat} {c c' : Command}
    (hj : log[j]? = some (.entered id c)) (hj' : log[j']? = some (.entered id c')) : j = j' := by
  rcases Nat.lt_trichotomy j j' with hlt | heq | hgt
  · exact absurd (mem_take_of_lt hlt hj) ((ho j' _ hj').2 c)
  · exact heq
  · exact absurd (mem_take_of_lt hgt hj') ((ho j _ hj).2 c')

/-- **A write** is acknowledged after its command has been accepted. -/
theorem Orderly.acknowledged {log : List Note} (ho : Orderly log) {k id : Nat}
    (hk : log[k]? = some (.acknowledged id)) :
    ∃ b j w c, Entered log id b j w c ∧ j < k ∧ w ≠ .snapshot := by
  obtain ⟨b, j, w, c, he, hw⟩ := ho k _ hk
  obtain ⟨he, hjk⟩ := he.of_take
  exact ⟨b, j, w, c, he, hjk, hw⟩

/-- **A snapshot** shows the replay of the commands accepted before its own. -/
theorem Orderly.shown {log : List Note} (ho : Orderly log) {k id : Nat} {states : States}
    (hk : log[k]? = some (.shown id states)) :
    ∃ b j ticket, Entered log id b j .snapshot (.snapshot ticket) ∧ j < k ∧
      states = replay (accepted (log.take j)) := by
  obtain ⟨b, j, ticket, he, hs⟩ := ho k _ hk
  obtain ⟨he, hjk⟩ := he.of_take
  refine ⟨b, j, ticket, he, hjk, ?_⟩
  rw [hs, List.take_take, Nat.min_eq_left (Nat.le_of_lt hjk)]

/-! ### What the log knows about a call -/

/-- The log agrees with the phase of a call. -/
def Recorded (log : List Note) (id : Nat) : Phase → Prop
  | .submitting w => (∃ b : Nat, log[b]? = some (.called id w)) ∧ ∀ c, Note.entered id c ∉ log
  | .written => ∃ b j w c, Entered log id b j w c ∧ w ≠ .snapshot
  | .awaiting ticket => ∃ b j, Entered log id b j .snapshot (.snapshot ticket)
  | .ended => True

/-- A note that does not say that the call's command was accepted leaves its phase alone. -/
theorem Recorded.append {log : List Note} {id : Nat} {p : Phase} (hr : Recorded log id p)
    {note : Note} (hne : ∀ c, note ≠ .entered id c) : Recorded (log ++ [note]) id p := by
  cases p with
  | submitting w =>
    obtain ⟨⟨b, hb⟩, hno⟩ := hr
    refine ⟨⟨b, ?_⟩, fun c hc => ?_⟩
    · rw [List.getElem?_append_left (List.getElem?_eq_some_iff.1 hb).1, hb]
    · rcases List.mem_append.1 hc with hc | hc
      · exact hno c hc
      · exact hne c (List.mem_singleton.1 hc).symm
  | written =>
    obtain ⟨b, j, w, c, he, hw⟩ := hr
    exact ⟨b, j, w, c, he.append _, hw⟩
  | awaiting ticket =>
    obtain ⟨b, j, he⟩ := hr
    exact ⟨b, j, he.append _⟩
  | ended => trivial

/-! ### The invariant -/

/-- What holds of a service all the time. -/
structure Sound (v : Service) : Prop where
  follows : ∃ n, Follows (accepted v.log) n v.store
  orderly : Orderly v.log
  recorded : ∀ id p, v.calls[id]? = some p → Recorded v.log id p
  numbered : ∀ note ∈ v.log, note.id < v.calls.length

variable {v : Service}

theorem sound_ofIntake (i : Intake) : Sound (ofIntake i) where
  follows := ⟨0, Follows.ofIntake i⟩
  orderly := orderly_nil
  recorded := by
    intro id p hp
    simp [ofIntake] at hp
  numbered := by
    intro note hn
    simp [ofIntake] at hn

/-- The log and the calls decide about everything but the store. -/
theorem Sound.of_store {v' : Service} (hs : Sound v) (hcalls : v'.calls = v.calls)
    (hlog : v'.log = v.log) (hf : ∃ n, Follows (accepted v.log) n v'.store) : Sound v' where
  follows := by
    rw [hlog]
    exact hf
  orderly := by
    rw [hlog]
    exact hs.orderly
  recorded := by
    rw [hlog, hcalls]
    exact hs.recorded
  numbered := by
    rw [hlog, hcalls]
    exact hs.numbered

/-- A phase after a call has been over. -/
theorem recorded_set {log : List Note} {calls : List Phase} {id : Nat}
    (hr : ∀ id p, calls[id]? = some p → Recorded log id p) {q : Phase} (hq : Recorded log id q) :
    ∀ id' p, (calls.set id q)[id']? = some p → Recorded log id' p := by
  intro id' p hp
  by_cases he : id = id'
  · subst he
    have hlt : id < calls.length := by
      have := (List.getElem?_eq_some_iff.1 hp).1
      simpa using this
    rw [List.getElem?_set_self hlt] at hp
    obtain rfl : q = p := by simpa using hp
    exact hq
  · rw [List.getElem?_set_ne he] at hp
    exact hr id' p hp

/-- **A call that ends** with a note that is admitted and accepts nothing. -/
theorem Sound.conclude (hs : Sound v) {id : Nat} {note : Note} (hid : note.id = id)
    (hlt : id < v.calls.length) (hn : Admits v.log note) (hc : note.command? = none) :
    Sound (v.conclude id note) where
  follows := by
    show ∃ n, Follows (accepted (v.log ++ [note])) n v.store
    rw [accepted_append_of_none _ hc]
    exact hs.follows
  orderly := hs.orderly.append hn
  recorded := by
    refine recorded_set (fun id' p hp => ?_) trivial
    refine (hs.recorded id' p hp).append fun c he => ?_
    rw [he] at hc
    cases hc
  numbered := by
    intro m hm
    show m.id < (v.calls.set id .ended).length
    rw [List.length_set]
    rcases List.mem_append.1 hm with hm | hm
    · exact hs.numbered m hm
    · rw [List.mem_singleton.1 hm, hid]
      exact hlt

/-- Offering the command of a wish makes the history longer by it. -/
theorem follows_prepared {h : List Command} {n : Nat} {s s' : Store} (hf : Follows h n s)
    {w : Wish} (ho : (prepared s w).offer (w.command s.tickets) = .accepted s') :
    Follows (h ++ [w.command s.tickets]) n s' := by
  cases w with
  | upsert state => exact hf.submit ho fun ticket he => by cases he
  | tombstone key => exact hf.submit ho fun ticket he => by cases he
  | snapshot => exact hf.ask ho

/-- **A command that is accepted** is the next of the history, and its call gets on. -/
theorem Sound.submit (hs : Sound v) {id : Nat} {w : Wish}
    (hp : v.calls[id]? = some (.submitting w)) : Sound (v.submit id w) := by
  have hlt : id < v.calls.length := (List.getElem?_eq_some_iff.1 hp).1
  obtain ⟨⟨b, hb⟩, hno⟩ := hs.recorded id _ hp
  unfold Service.submit
  cases ho : (prepared v.store w).offer (w.command v.store.tickets) with
  | full => exact hs
  | closed => exact hs.conclude rfl hlt trivial rfl
  | accepted store =>
    have hblt : b < v.log.length := (List.getElem?_eq_some_iff.1 hb).1
    have hentered : Entered (v.log ++ [.entered id (w.command v.store.tickets)]) id b v.log.length w
        (w.command v.store.tickets) := by
      refine ⟨hblt, ?_, by simp, v.store.tickets, rfl⟩
      rw [List.getElem?_append_left hblt, hb]
    refine ⟨?_, ?_, ?_, ?_⟩
    · obtain ⟨n, hf⟩ := hs.follows
      refine ⟨n, ?_⟩
      show Follows (accepted (v.log ++ [.entered id _])) n store
      rw [accepted_append_entered]
      exact follows_prepared hf ho
    · exact hs.orderly.append ⟨⟨b, w, v.store.tickets, hb, rfl⟩, hno⟩
    · -- The call itself moves on; the note is about no other call.
      intro id' p hp'
      by_cases he : id = id'
      · subst he
        have hp' : (v.calls.set id (.afterwards v.store.tickets w))[id]? = some p := hp'
        rw [List.getElem?_set_self hlt] at hp'
        obtain rfl : Phase.afterwards v.store.tickets w = p := by simpa using hp'
        cases w with
        | upsert state => exact ⟨b, _, _, _, hentered, by simp⟩
        | tombstone key => exact ⟨b, _, _, _, hentered, by simp⟩
        | snapshot => exact ⟨b, _, hentered⟩
      · have hp' : (v.calls.set id (.afterwards v.store.tickets w))[id']? = some p := hp'
        rw [List.getElem?_set_ne he] at hp'
        exact (hs.recorded id' p hp').append fun c hc => he (Note.entered.inj hc).1
    · intro m hm
      show m.id < (v.calls.set id _).length
      rw [List.length_set]
      rcases List.mem_append.1 hm with hm | hm
      · exact hs.numbered m hm
      · rw [List.mem_singleton.1 hm]
        exact hlt

/-- **An answer** is the replay of the commands accepted before the snapshot's own. -/
theorem Sound.look (hs : Sound v) {id ticket : Nat}
    (hp : v.calls[id]? = some (.awaiting ticket)) : Sound (v.look id ticket) := by
  have hlt : id < v.calls.length := (List.getElem?_eq_some_iff.1 hp).1
  obtain ⟨b, j, he⟩ := hs.recorded id _ hp
  obtain ⟨n, hf⟩ := hs.follows
  have hanswer := hf.answerTo_eq (accepted_getElem? he.entered)
  unfold Service.look
  rw [hanswer]
  by_cases hn : (accepted (v.log.take j)).length < n
  · -- The snapshot has been applied, to what the commands before it had left.
    rw [if_pos hn, take_accepted]
    exact hs.conclude rfl hlt ⟨b, j, ticket, he, rfl⟩ rfl
  · -- It has not, so there is an answer only if nobody will ever give one.
    rw [if_neg hn]
    cases v.store.isClosed with
    | true => exact hs.conclude rfl hlt trivial rfl
    | false => exact hs

/-- A new call is told from the others by its number. -/
theorem Sound.call (hs : Sound v) (w : Wish) :
    Sound { v with
      calls := v.calls ++ [.submitting w]
      log := v.log ++ [.called v.calls.length w] } where
  follows := by
    show ∃ n, Follows (accepted (v.log ++ [.called v.calls.length w])) n v.store
    rw [accepted_append_of_none _ rfl]
    exact hs.follows
  orderly := hs.orderly.append fun note hn => Nat.ne_of_lt (hs.numbered note hn)
  recorded := by
    intro id p hp
    have hp : (v.calls ++ [Phase.submitting w])[id]? = some p := hp
    rcases getElem?_append_singleton_eq_some hp with hold | ⟨rfl, rfl⟩
    · exact (hs.recorded id p hold).append fun c hc => by cases hc
    · -- The number of the new call is not in use.
      refine ⟨⟨v.log.length, by simp⟩, fun c hc => ?_⟩
      rcases List.mem_append.1 hc with hc | hc
      · exact absurd (hs.numbered _ hc) (Nat.lt_irrefl _)
      · cases List.mem_singleton.1 hc
  numbered := by
    intro m hm
    show m.id < (v.calls ++ [Phase.submitting w]).length
    rw [List.length_append]
    rcases List.mem_append.1 hm with hm | hm
    · exact Nat.lt_add_right _ (hs.numbered m hm)
    · rw [List.mem_singleton.1 hm]
      exact Nat.lt_succ_self _

/-- **Every move** keeps the invariant up. -/
theorem Sound.act (hs : Sound v) (move : Move) : Sound (v.act move) := by
  cases move with
  | clone =>
    simp only [Service.act]
    split
    · exact hs
    · exact hs.of_store rfl rfl hs.follows
  | drop =>
    simp only [Service.act]
    split
    · exact hs
    · exact hs.of_store rfl rfl hs.follows
  | call w =>
    simp only [Service.act]
    split
    · exact hs
    · exact hs.call w
  | press id =>
    simp only [Service.act]
    split
    · rename_i w hp
      exact hs.submit hp
    · exact hs
  | expire id =>
    simp only [Service.act]
    split
    · rename_i state hp
      exact hs.conclude rfl (List.getElem?_eq_some_iff.1 hp).1 trivial rfl
    · exact hs
  | abandon id =>
    refine ⟨hs.follows, hs.orderly, recorded_set hs.recorded trivial, fun m hm => ?_⟩
    show m.id < (v.calls.set id .ended).length
    rw [List.length_set]
    exact hs.numbered m hm
  | collect id =>
    simp only [Service.act]
    split
    · rename_i hp
      exact hs.conclude rfl (List.getElem?_eq_some_iff.1 hp).1 (hs.recorded id _ hp) rfl
    · rename_i ticket hp
      exact hs.look hp
    · exact hs
  | start =>
    obtain ⟨n, hf⟩ := hs.follows
    exact hs.of_store rfl rfl ⟨n, hf.start⟩
  | take =>
    simp only [Service.act]
    split
    · exact hs
    · obtain ⟨n, hf⟩ := hs.follows
      rcases hf.take with heq | ⟨-, -, hf'⟩
      · exact hs.of_store rfl rfl ⟨n, by rw [heq]; exact hf⟩
      · exact hs.of_store rfl rfl ⟨n + 1, hf'⟩
  | cancel => exact hs.of_store rfl rfl hs.follows
  | leave =>
    simp only [Service.act]
    split
    · obtain ⟨n, hf⟩ := hs.follows
      exact hs.of_store rfl rfl ⟨n, hf.cancel⟩
    · exact hs

theorem Sound.run (hs : Sound v) (moves : List Move) : Sound (v.run moves) := by
  refine List.foldlRecOn (motive := Sound) moves Service.act hs ?_
  intro w hw move _
  exact hw.act move

/-- **The log** of a run is orderly, whatever is done in which order. -/
theorem sound_run (i : Intake) (moves : List Move) : Sound ((ofIntake i).run moves) :=
  (sound_ofIntake i).run moves

end Service

end AlertRelay
