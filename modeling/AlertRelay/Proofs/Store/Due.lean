/-
AlertRelay/Proofs/Store/Due.lean

What a store is going to show.

A command counts from the moment in which the intake accepts it, and the owner applies it at some
time after that.  So beside the states that are cached there are those that are due: the ones that
will be cached when everything that waits has been applied (`Store.due`).  They change when a
command is accepted and at no other time, whatever the pace of the owner, as long as it does not
stop (`due_run`).  They are also what a question is answered with (`answerTo_settle`), and if the
store has been through a history they are its replay (`Follows.due_eq`).

A call waits while others act.  What can become of it in the end is one of three things
(`Submitted`): it gets in at some moment, it finds no room at any moment, or the owner has stopped
before there was room.  An owner at work makes room each time it takes a command (`Ready.room`).
-/
import AlertRelay.Proofs.Store.Ledger

namespace AlertRelay

namespace Store

variable {s s' : Store} {c : Command}

/-! ### The states that are due -/

/-- The states that will be cached when everything that waits has been applied. -/
def due (s : Store) : States :=
  s.waiting.foldl Command.apply s.cached

/-- **An accepted command** counts at once. -/
theorem due_of_accepted (h : s.offer c = .accepted s') : s'.due = c.apply s.due := by
  obtain ⟨-, -, rfl⟩ := offer_eq_accepted_iff.1 h
  exact List.foldl_append

/-- The pace of the owner does not matter. -/
@[simp] theorem due_take (s : Store) : s.take.due = s.due := by
  obtain ⟨heq, -⟩ | ⟨c, rest, -, hw, heq⟩ := s.take_cases
  · rw [heq]
  · rw [heq, due, due, hw]
    rfl

@[simp] theorem due_start (s : Store) : s.start.due = s.due := by
  simp [due]

theorem due_takeMany (n : Nat) (s : Store) : (takeMany n s).due = s.due := by
  induction n generalizing s with
  | zero => rfl
  | succ n ih => exact (ih s.take).trans s.due_take

theorem due_of_waiting_eq_nil (hw : s.waiting = []) : s.due = s.cached := by
  rw [due, hw]
  rfl

/-- **A running owner** that does what waits has cached what was due. -/
theorem settle_cached (ho : s.owner = .running) : s.settle.cached = s.due := by
  rw [← due_of_waiting_eq_nil (settle_waiting ho)]
  exact due_takeMany _ s

/-! ### Answers -/

/-- Doing what waits begins with the first command. -/
theorem settle_of_waiting_eq_cons {rest : List Command} (ho : s.owner = .running)
    (hw : s.waiting = c :: rest) : s.settle = s.take.settle := by
  have htake : s.take.waiting = rest := by simp [take, ho, hw]
  rw [settle, settle, hw, htake]
  rfl

/-- **A question** that has been accepted is answered with what is due. -/
theorem answerTo_settle {before : List Command} {ticket : Nat} (ho : s.owner = .running)
    (hw : s.waiting = before ++ [.snapshot ticket]) :
    s.settle.answerTo ticket = .ended (.ok s.due) := by
  induction before generalizing s with
  | nil =>
    -- the question is the last command, so its answer is the first that is found
    have hdue : s.due = s.cached := by
      rw [due, hw]
      rfl
    have htake : s.take.waiting = [] := by simp [take, ho, hw]
    have hanswers : s.take.answers = (ticket, s.cached) :: s.answers := by
      simp [take, ho, hw, answersAfter]
    rw [settle_of_waiting_eq_cons ho hw, settle, htake, hdue]
    show s.take.answerTo ticket = _
    simp [answerTo, hanswers]
  | cons c before ih =>
    have hw : s.waiting = c :: (before ++ [.snapshot ticket]) := hw
    have htake : s.take.waiting = before ++ [.snapshot ticket] := by simp [take, ho, hw]
    have hrunning : s.take.owner = .running := s.take_owner.trans ho
    rw [settle_of_waiting_eq_cons ho hw, ih hrunning htake, due_take]

/-! ### Runs -/

/-- The command that an action brings into the intake. -/
def accepted? (s : Store) : Action → Option Command
  | .submit c =>
    match s.offer c with
    | .accepted _ => some c
    | _ => none
  | _ => none

/-- The commands that are accepted in the course of some actions. -/
def accepts (s : Store) : List Action → List Command
  | [] => []
  | a :: rest => (s.accepted? a).toList ++ (s.act a).accepts rest

/-- An owner that has stopped never starts again. -/
theorem owner_act_of_stopped (ho : s.owner = .stopped) (a : Action) :
    (s.act a).owner = .stopped := by
  cases a with
  | submit c =>
    simp only [act, offer_eq_closed_iff.2 ho]
    exact ho
  | take => exact s.take_owner.trans ho
  | start => exact (start_owner_eq_stopped_iff s).2 ho
  | cancel => rfl

theorem owner_run_of_stopped (ho : s.owner = .stopped) (actions : List Action) :
    (s.run actions).owner = .stopped := by
  refine List.foldlRecOn (motive := fun s => s.owner = .stopped) actions act ho ?_
  intro s ho a _
  exact owner_act_of_stopped ho a

/-- **One action** brings a command in or changes nothing that is due. -/
theorem due_act {a : Action} (ho : (s.act a).owner ≠ .stopped) :
    (s.act a).due = (s.accepted? a).toList.foldl Command.apply s.due := by
  cases a with
  | submit c =>
    cases h : s.offer c with
    | accepted s' =>
      simp only [act, accepted?, h]
      exact due_of_accepted h
    | full => simp [act, accepted?, h]
    | closed => simp [act, accepted?, h]
  | take => exact s.due_take
  | start => exact s.due_start
  | cancel => exact absurd rfl ho

/-- **What is due** after some actions: the commands that were accepted have been applied to what
was due before. -/
theorem due_run {actions : List Action} (ho : (s.run actions).owner ≠ .stopped) :
    (s.run actions).due = (s.accepts actions).foldl Command.apply s.due := by
  induction actions generalizing s with
  | nil => rfl
  | cons a rest ih =>
    have hact : (s.act a).owner ≠ .stopped := fun hs => ho (owner_run_of_stopped hs rest)
    rw [accepts, List.foldl_append, ← due_act hact]
    exact ih ho

theorem run_append (s : Store) (actions more : List Action) :
    s.run (actions ++ more) = (s.run actions).run more :=
  List.foldl_append

/-! ### A store with one more ticket -/

/-- A ticket makes no difference to what others do. -/
theorem offer_withTicket (s : Store) (c : Command) :
    s.withTicket.offer c =
      match s.offer c with
      | .accepted s' => .accepted s'.withTicket
      | .full => .full
      | .closed => .closed := by
  unfold offer
  by_cases ho : s.owner = .stopped
  · simp [ho, withTicket]
  · by_cases hw : s.waiting.length < s.capacity <;> simp [ho, hw, withTicket]

theorem act_withTicket (s : Store) (a : Action) : s.withTicket.act a = (s.act a).withTicket := by
  cases a with
  | submit c =>
    simp only [act, offer_withTicket]
    cases s.offer c <;> rfl
  | take =>
    simp only [act, take, withTicket]
    split <;> rfl
  | start => by_cases ho : s.owner = .absent <;> simp [act, start, withTicket, ho]
  | cancel => rfl

theorem run_withTicket (s : Store) (actions : List Action) :
    s.withTicket.run actions = (s.run actions).withTicket := by
  induction actions generalizing s with
  | nil => rfl
  | cons a rest ih =>
    show (s.withTicket.act a).run rest = _
    rw [act_withTicket]
    exact ih (s.act a)

/-! ### Submissions -/

/-- How the submission of a command ends while others do something. -/
inductive Submitted (s : Store) (c : Command) (moments : List Action) : Submission × Store → Prop
  where
  /-- It gets in after some of the moments. -/
  | accepted (k : Nat) (s' : Store) (offer : (s.run (moments.take k)).offer c = .accepted s') :
      Submitted s c moments (.accepted, s')
  /-- There is no room at any moment. -/
  | timedOut (full : ∀ k, (s.run (moments.take k)).offer c = .full) :
      Submitted s c moments (.timedOut, s.run moments)
  | closed (k : Nat) (stopped : (s.run (moments.take k)).owner = .stopped) :
      Submitted s c moments (.closed, s.run (moments.take k))

/-- **A submission** ends in one of three ways. -/
theorem submitted (s : Store) (c : Command) (moments : List Action) :
    Submitted s c moments (submit c moments s) := by
  induction moments generalizing s with
  | nil =>
    unfold submit
    cases h : s.offer c with
    | accepted s' => exact .accepted 0 s' h
    | full =>
      refine .timedOut fun k => ?_
      rw [List.take_nil]
      exact h
    | closed => exact .closed 0 (offer_eq_closed_iff.1 h)
  | cons a rest ih =>
    unfold submit
    cases h : s.offer c with
    | accepted s' => exact .accepted 0 s' h
    | closed => exact .closed 0 (offer_eq_closed_iff.1 h)
    | full =>
      -- the later moments are those of the store after the first one
      have hlater := ih (s.act a)
      generalize submit c rest (s.act a) = result at hlater
      cases hlater with
      | accepted k s' offer => exact .accepted (k + 1) s' offer
      | closed k stopped => exact .closed (k + 1) stopped
      | timedOut full =>
        refine .timedOut fun k => ?_
        cases k with
        | zero => exact h
        | succ k => exact full k

/-- There is no room exactly if the owner has not stopped and the intake is full. -/
theorem offer_eq_full_iff :
    s.offer c = .full ↔ s.owner ≠ .stopped ∧ s.capacity ≤ s.waiting.length := by
  unfold offer
  by_cases ho : s.owner = .stopped
  · simp [ho]
  · by_cases hw : s.waiting.length < s.capacity
    · simp [ho, hw]
    · simp [ho, hw, Nat.le_of_not_lt hw]

/-! ### Room -/

/-- The intake has room for something, and holds no more than it has room for. -/
structure Bounded (s : Store) : Prop where
  roomy : 0 < s.capacity
  fits : s.waiting.length ≤ s.capacity

theorem bounded_ofIntake (i : Intake) : (ofIntake i).Bounded where
  roomy := Nat.lt_of_lt_of_le Nat.zero_lt_one (Nat.le_max_right _ _)
  fits := Nat.zero_le _

theorem Bounded.offer (h : s.Bounded) (ho : s.offer c = .accepted s') : s'.Bounded := by
  obtain ⟨-, hroom, rfl⟩ := offer_eq_accepted_iff.1 ho
  refine ⟨h.roomy, ?_⟩
  show (s.waiting ++ [c]).length ≤ s.capacity
  rw [List.length_append]
  exact hroom

theorem Bounded.take (h : s.Bounded) : s.take.Bounded := by
  rcases s.take_cases with ⟨heq, -⟩ | ⟨c, rest, -, hw, heq⟩
  · rw [heq]
    exact h
  · have hfits := h.fits
    rw [hw, List.length_cons] at hfits
    rw [heq]
    exact ⟨h.roomy, Nat.le_of_succ_le hfits⟩

theorem Bounded.start (h : s.Bounded) : s.start.Bounded := by
  unfold Store.start
  split
  · exact ⟨h.roomy, h.fits⟩
  · exact h

theorem Bounded.cancel (h : s.Bounded) : s.cancel.Bounded where
  roomy := h.roomy
  fits := Nat.zero_le _

/-- An owner at work. -/
structure Ready (s : Store) : Prop where
  running : s.owner = .running
  bounded : s.Bounded

theorem ready_start_ofIntake (i : Intake) : (ofIntake i).start.Ready :=
  ⟨rfl, (bounded_ofIntake i).start⟩

theorem Ready.offer (h : s.Ready) (ho : s.offer c = .accepted s') : s'.Ready := by
  refine ⟨?_, h.bounded.offer ho⟩
  obtain ⟨-, -, rfl⟩ := offer_eq_accepted_iff.1 ho
  exact h.running

theorem Ready.take (h : s.Ready) : s.take.Ready :=
  ⟨s.take_owner.trans h.running, h.bounded.take⟩

theorem Ready.takeMany (h : s.Ready) (n : Nat) : (takeMany n s).Ready := by
  induction n generalizing s with
  | zero => exact h
  | succ n ih => exact ih h.take

/-- **After an owner at work** has taken a command there is room for another one. -/
theorem Ready.room (h : s.Ready) : s.take.waiting.length < s.take.capacity := by
  rcases s.take_cases with ⟨heq, hidle⟩ | ⟨c, rest, -, hw, heq⟩
  · rw [heq, hidle.resolve_left (not_not_intro h.running)]
    exact h.bounded.roomy
  · have hfits := h.bounded.fits
    rw [hw, List.length_cons] at hfits
    rw [heq]
    exact hfits

theorem run_replicate_take (n : Nat) (s : Store) :
    s.run (List.replicate n .take) = Store.takeMany n s := by
  induction n generalizing s with
  | zero => rfl
  | succ n ih => exact ih s.take

/-- What the owner has done at some moment of the waiting. -/
theorem run_take_replicate (n k : Nat) (s : Store) :
    s.run ((List.replicate n .take).take k) = Store.takeMany (min k n) s := by
  rw [List.take_replicate, run_replicate_take]

end Store

/-! ### Histories -/

/-- **After a history** its replay is due, unless the owner has stopped. -/
theorem Follows.due_eq {h : List Command} {n : Nat} {s : Store} (hf : Follows h n s)
    (ho : s.owner ≠ .stopped) : s.due = replay h := by
  rw [Store.due, hf.waiting ho, hf.cached, replay, replay, ← List.foldl_append,
    List.take_append_drop]

/-- What has been applied is what does not wait any more. -/
theorem Follows.eq_sub {h : List Command} {n : Nat} {s : Store} (hf : Follows h n s)
    (ho : s.owner ≠ .stopped) : n = h.length - s.waiting.length := by
  have hle := hf.le_length
  rw [hf.waiting ho, List.length_drop]
  omega

/-- **An action** that is no question keeps a store on its history. -/
theorem Follows.act {h : List Command} {n : Nat} {s : Store} (hf : Follows h n s) {a : Store.Action}
    (hask : ∀ ticket, .snapshot ticket ∉ (s.accepted? a).toList) :
    ∃ n', Follows (h ++ (s.accepted? a).toList) n' (s.act a) := by
  -- what brings nothing in leaves the history as it is
  have hsame : ∀ {n' s'}, Follows h n' s' → ∃ n'', Follows (h ++ []) n'' s' := fun hf =>
    ⟨_, (List.append_nil h).symm ▸ hf⟩
  cases a with
  | submit c =>
    cases ho : s.offer c with
    | accepted s' =>
      simp only [Store.accepted?, ho] at hask ⊢
      simp only [Store.act, ho]
      exact ⟨n, hf.submit ho fun ticket he => hask ticket (by simp [he])⟩
    | full =>
      simp only [Store.act, Store.accepted?, ho]
      exact hsame hf
    | closed =>
      simp only [Store.act, Store.accepted?, ho]
      exact hsame hf
  | take =>
    rcases hf.take with heq | ⟨-, -, hf⟩
    · show ∃ n', Follows (h ++ []) n' s.take
      rw [heq]
      exact hsame hf
    · exact hsame hf
  | start => exact hsame hf.start
  | cancel => exact hsame hf.cancel

theorem Follows.run {h : List Command} {n : Nat} {s : Store} (hf : Follows h n s)
    {actions : List Store.Action} (hask : ∀ ticket, .snapshot ticket ∉ s.accepts actions) :
    ∃ n', Follows (h ++ s.accepts actions) n' (s.run actions) := by
  induction actions generalizing h n s with
  | nil =>
    rw [Store.accepts, List.append_nil]
    exact ⟨n, hf⟩
  | cons a rest ih =>
    simp only [Store.accepts, List.mem_append, not_or] at hask
    obtain ⟨n', hf'⟩ := hf.act fun ticket => (hask ticket).1
    rw [Store.accepts, ← List.append_assoc]
    exact ih hf' fun ticket => (hask ticket).2

/-- Commands that are about other keys have no word about a key. -/
theorem lastWord_eq_none_iff {key : String} {later : List Command} :
    lastWord key later = none ↔ ∀ c ∈ later, c.key? ≠ some key := by
  induction later with
  | nil => simp [lastWord]
  | cons c later ih =>
    rw [lastWord, Option.or_eq_none_iff, ih, List.forall_mem_cons, and_comm]
    simp

end AlertRelay
