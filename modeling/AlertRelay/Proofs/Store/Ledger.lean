/-
AlertRelay/Proofs/Store/Ledger.lean

A store against the history of its commands.

`Follows h n s` says that the store `s` has been through the history `h`: it has applied the first
`n` commands of it and, unless its owner has stopped, has the others in front of it, in their
order.  Then everything that it shows is decided by `h` and `n` alone:

* what it has cached is the replay of the commands it has applied;
* a snapshot is answered once it has been applied, with the replay of the commands before it
  (`Follows.answerTo_eq`), and later commands leave the answer alone.

Every step of the store keeps this up; a step that accepts a command makes the history longer, and
a step that takes one moves `n` on.  Whoever runs a store among other things carries `h` along and
has these lemmas for the store's part.
-/
import AlertRelay.Proofs.Store.History

namespace AlertRelay

/-- A store that has been through a history and has applied so many commands of it. -/
structure Follows (h : List Command) (n : Nat) (s : Store) : Prop where
  le_length : n ≤ h.length
  waiting : s.owner ≠ .stopped → s.waiting = h.drop n
  /-- An owner that has stopped has forgotten what waited. -/
  forgotten : s.owner = .stopped → s.waiting = []
  cached : s.cached = replay (h.take n)
  answers : ∀ ticket states, (ticket, states) ∈ s.answers ↔
    ∃ p : Nat, p < n ∧ h[p]? = some (.snapshot ticket) ∧ states = replay (h.take p)
  /-- Only tickets that have been given out are in use. -/
  fresh : ∀ p ticket : Nat, h[p]? = some (.snapshot ticket) → ticket < s.tickets
  /-- No ticket is used twice. -/
  once : ∀ p q ticket : Nat,
    h[p]? = some (.snapshot ticket) → h[q]? = some (.snapshot ticket) → p = q

namespace Follows

variable {h : List Command} {n : Nat} {s : Store}

theorem ofIntake (i : Intake) : Follows [] 0 (Store.ofIntake i) where
  le_length := Nat.le_refl 0
  waiting := fun _ => rfl
  forgotten := fun _ => rfl
  cached := rfl
  answers := by
    intro ticket states
    simp [Store.ofIntake]
  fresh := by
    intro p ticket hp
    simp at hp
  once := by
    intro p q ticket hp
    simp at hp

/-! ### Steps -/

theorem withTicket (hf : Follows h n s) : Follows h n s.withTicket where
  le_length := hf.le_length
  waiting := hf.waiting
  forgotten := hf.forgotten
  cached := hf.cached
  answers := hf.answers
  fresh := fun p ticket hp => Nat.lt_succ_of_lt (hf.fresh p ticket hp)
  once := hf.once

/-- **Accepting** a command makes the history longer.  A snapshot needs a ticket that has been given
out and is not in use. -/
theorem offer (hf : Follows h n s) {c : Command} {s' : Store} (ho : s.offer c = .accepted s')
    (hc : ∀ ticket, c = .snapshot ticket →
      ticket < s.tickets ∧ ∀ p : Nat, h[p]? ≠ some (.snapshot ticket)) :
    Follows (h ++ [c]) n s' := by
  obtain ⟨howner, -, rfl⟩ := Store.offer_eq_accepted_iff.1 ho
  refine ⟨?_, ?_, fun hs => absurd hs howner, ?_, ?_, ?_, ?_⟩
  · have := hf.le_length
    simp
    omega
  · intro _
    show s.waiting ++ [c] = (h ++ [c]).drop n
    rw [hf.waiting howner, List.drop_append_of_le_length hf.le_length]
  · show s.cached = replay ((h ++ [c]).take n)
    rw [hf.cached, List.take_append_of_le_length hf.le_length]
  · intro ticket states
    show (ticket, states) ∈ s.answers ↔ _
    rw [hf.answers]
    -- Only applied commands have answers, and the new one is not among them.
    refine exists_congr fun p => and_congr_right fun hp => ?_
    have hlt : p < h.length := Nat.lt_of_lt_of_le hp hf.le_length
    rw [List.getElem?_append_left hlt, List.take_append_of_le_length (Nat.le_of_lt hlt)]
  · intro p ticket hp
    rcases getElem?_append_singleton_eq_some hp with hold | ⟨-, hnew⟩
    · exact hf.fresh p ticket hold
    · exact (hc ticket hnew).1
  · intro p q ticket hp hq
    rcases getElem?_append_singleton_eq_some hp with hp | ⟨hp, hnew⟩
    · rcases getElem?_append_singleton_eq_some hq with hq | ⟨-, hnew⟩
      · exact hf.once p q ticket hp hq
      · exact absurd hp ((hc ticket hnew).2 p)
    · rcases getElem?_append_singleton_eq_some hq with hq | ⟨hq, -⟩
      · exact absurd hq ((hc ticket hnew).2 q)
      · rw [hp, hq]

/-- Accepting a command that is no snapshot. -/
theorem submit (hf : Follows h n s) {c : Command} {s' : Store} (ho : s.offer c = .accepted s')
    (hc : ∀ ticket, c ≠ .snapshot ticket) : Follows (h ++ [c]) n s' :=
  hf.offer ho fun ticket he => absurd he (hc ticket)

/-- Accepting a snapshot under the next ticket. -/
theorem ask (hf : Follows h n s) {s' : Store}
    (ho : s.withTicket.offer (.snapshot s.tickets) = .accepted s') :
    Follows (h ++ [.snapshot s.tickets]) n s' := by
  refine hf.withTicket.offer ho fun ticket he => ?_
  obtain rfl : s.tickets = ticket := by simpa using he
  refine ⟨Nat.lt_succ_self _, fun p hp => ?_⟩
  exact absurd (hf.fresh p _ hp) (Nat.lt_irrefl _)

/-- **Taking** a command applies the next one of the history. -/
theorem take (hf : Follows h n s) :
    s.take = s ∨ (n < h.length ∧ s.owner = .running ∧ Follows h (n + 1) s.take) := by
  rcases s.take_cases with ⟨heq, -⟩ | ⟨c, rest, ho, hw, heq⟩
  · exact .inl heq
  · right
    -- What waits is the rest of the history, so the command that is taken is number `n` of it.
    have hdrop : h.drop n = c :: rest := by
      rw [← hf.waiting (by simp [ho]), hw]
    have hlt : n < h.length := by
      have := congrArg List.length hdrop
      simp at this
      omega
    have hc : h[n]? = some c := by
      have := congrArg (·[0]?) hdrop
      simpa using this
    have htake : h.take (n + 1) = h.take n ++ [c] := by
      rw [List.take_add_one, hc]
      rfl
    refine ⟨hlt, ho, ?_⟩
    rw [heq]
    refine ⟨hlt, ?_, fun hs => absurd hs (by simp [ho]), ?_, ?_, hf.fresh, hf.once⟩
    · intro _
      show rest = h.drop (n + 1)
      rw [← List.tail_drop, hdrop]
      rfl
    · show c.apply s.cached = replay (h.take (n + 1))
      rw [htake, replay_append_singleton, hf.cached]
    · intro ticket states
      show (ticket, states) ∈ s.answersAfter c ↔ _
      -- The answers grow by one if the command is a snapshot, and stay as they are if not.
      have hstep : (ticket, states) ∈ s.answersAfter c ↔
          (c = .snapshot ticket ∧ states = s.cached) ∨ (ticket, states) ∈ s.answers := by
        cases c with
        | upsert t => simp [Store.answersAfter]
        | tombstone key => simp [Store.answersAfter]
        | snapshot t => simp [Store.answersAfter, eq_comm]
      rw [hstep, hf.answers, hf.cached]
      constructor
      · rintro (⟨rfl, rfl⟩ | ⟨p, hp, hq, rfl⟩)
        · exact ⟨n, Nat.lt_succ_self n, hc, rfl⟩
        · exact ⟨p, Nat.lt_succ_of_lt hp, hq, rfl⟩
      · rintro ⟨p, hp, hq, rfl⟩
        rcases Nat.lt_succ_iff_lt_or_eq.1 hp with hp | rfl
        · exact .inr ⟨p, hp, hq, rfl⟩
        · left
          rw [hc] at hq
          exact ⟨by simpa using hq, rfl⟩

theorem start (hf : Follows h n s) : Follows h n s.start where
  le_length := hf.le_length
  waiting := by
    intro ho
    rw [Store.start_waiting]
    exact hf.waiting fun hs => ho ((Store.start_owner_eq_stopped_iff s).2 hs)
  forgotten := by
    intro ho
    rw [Store.start_waiting]
    exact hf.forgotten ((Store.start_owner_eq_stopped_iff s).1 ho)
  cached := by
    rw [Store.start_cached]
    exact hf.cached
  answers := by
    rw [Store.start_answers]
    exact hf.answers
  fresh := by
    rw [Store.start_tickets]
    exact hf.fresh
  once := hf.once

/-- An owner that stops forgets what waited, and nothing else. -/
theorem cancel (hf : Follows h n s) : Follows h n s.cancel where
  le_length := hf.le_length
  waiting := fun ho => absurd rfl ho
  forgotten := fun _ => rfl
  cached := hf.cached
  answers := hf.answers
  fresh := hf.fresh
  once := hf.once

/-! ### What the store shows -/

/-- A store whose owner has not stopped has applied everything if nothing waits. -/
theorem eq_length (hf : Follows h n s) (ho : s.owner ≠ .stopped) (hw : s.waiting = []) :
    n = h.length := by
  have := hf.waiting ho
  rw [hw] at this
  have hle : h.length ≤ n := List.drop_eq_nil_iff.1 this.symm
  exact Nat.le_antisymm hf.le_length hle

/-- **The answer** to a snapshot: the replay of the commands before it, once it has been applied. -/
theorem answerTo_eq (hf : Follows h n s) {p ticket : Nat} (hp : h[p]? = some (.snapshot ticket)) :
    s.answerTo ticket =
      if p < n then .ended (.ok (replay (h.take p)))
      else if s.isClosed then .ended (.error .closed) else .waiting := by
  unfold Store.answerTo
  cases hl : s.answers.lookup ticket with
  | some states =>
    obtain ⟨l₁, l₂, hsplit, -⟩ := List.lookup_eq_some_iff.1 hl
    have hmem : (ticket, states) ∈ s.answers := by
      rw [hsplit]
      simp
    obtain ⟨q, hqn, hq, rfl⟩ := (hf.answers ticket states).1 hmem
    obtain rfl : q = p := hf.once q p ticket hq hp
    rw [if_pos hqn]
  | none =>
    have hn : ¬ p < n := by
      intro hpn
      have hmem := (hf.answers ticket _).2 ⟨p, hpn, hp, rfl⟩
      have := List.lookup_eq_none_iff.1 hl _ hmem
      simp at this
    rw [if_neg hn]

end Follows

end AlertRelay
