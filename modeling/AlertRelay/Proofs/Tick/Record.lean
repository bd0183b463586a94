/-
AlertRelay/Proofs/Tick/Record.lean

What ticks leave in the history of a store.

A record is the history of the commands together with what the ticks did meanwhile.  A tick is
known by its place in the history, the number of commands that had entered before its snapshot; so
an attempt to send a state names the command that had cached it (`Record.Subject`), and a tombstone
has a place of its own and the place of the tick that sent it.

`Record.Sound` collects how these places lie to each other.  Four things can happen to a record: a
command of somebody else enters, a tick asks, a tick tries a state, a tick drops one.  Each keeps a
record sound if it comes at the right moment, and what is the right moment is all that this module
asks of a tick.

Two facts follow from soundness alone.  A one-shot state is tried once (`Sound.attempt_unique`),
because its tombstone comes before the next tick's snapshot.  And a tombstone removes what its tick
has tried exactly if that had been cached before the tick asked (`Sound.tried_iff`): a tombstone
names a key and not a state, so it removes what somebody else cached in between as well.
-/
import AlertRelay.Proofs.Store.History
import AlertRelay.Tick

namespace AlertRelay

/-- A state that a tick has tried to send. -/
structure Attempt where
  /-- How many commands had entered before the snapshot of the tick. -/
  asked : Nat
  state : CachedState
  now : Int64
deriving DecidableEq

/-- One attempt comes before another: its tick did, or its key does. -/
def Attempt.Before (a b : Attempt) : Prop :=
  a.asked < b.asked ∨ (a.asked = b.asked ∧ compare a.state.key b.state.key = .lt)

/-- The history of a store with what ticks did meanwhile. -/
structure Record where
  /-- The commands in the order in which they entered. -/
  entered : List Command := []
  /-- How many had entered before the snapshot of the last tick. -/
  asked : Nat := 0
  attempts : List Attempt := []
  /-- The places of the tombstones, each with that of the tick that sent it. -/
  drops : List (Nat × Nat) := []

namespace Record

/-! ### What can happen -/

/-- A command of somebody else enters. -/
def enter (r : Record) (c : Command) : Record :=
  { r with entered := r.entered ++ [c] }

/-- The snapshot of a tick enters. -/
def ask (r : Record) (ticket : Nat) : Record :=
  { r with entered := r.entered ++ [.snapshot ticket], asked := r.entered.length }

/-- A tick tries to send a state. -/
def attempt (r : Record) (s : CachedState) (now : Int64) : Record :=
  { r with attempts := r.attempts ++ [⟨r.asked, s, now⟩] }

/-- The tombstone of a tick enters. -/
def drop (r : Record) (key : String) : Record :=
  { r with
    entered := r.entered ++ [.tombstone key]
    drops := r.drops ++ [(r.entered.length, r.asked)] }

/-! ### Places -/

/-- Command `i` had cached the state that was tried, when the tick asked. -/
def Subject (r : Record) (a : Attempt) (i : Nat) : Prop :=
  Holds (r.entered.take a.asked) i a.state

/-- The tick that tried a state has sent a tombstone for it. -/
def Dropped (r : Record) (a : Attempt) : Prop :=
  ∃ n, (n, a.asked) ∈ r.drops ∧ r.entered[n]? = some (.tombstone a.state.key)

/-- The tombstone at `n` was sent by the tick that asked at `m`. -/
structure Drop (r : Record) (n m : Nat) : Prop where
  asked_le : m ≤ n
  lt_length : n < r.entered.length
  le_asked : m ≤ r.asked
  /-- It had entered when the next tick asked. -/
  earlier : m < r.asked → n < r.asked
  /-- The tick had tried a one-shot state under this key. -/
  reason : ∃ a ∈ r.attempts, a.asked = m ∧ a.state.isOneShot = true ∧
    r.entered[n]? = some (.tombstone a.state.key)

/-- How the places of a record lie to each other. -/
structure Sound (r : Record) : Prop where
  asked_le : r.asked ≤ r.entered.length
  /-- A tick works on the answer to its snapshot. -/
  snapshot : ∀ a ∈ r.attempts, ∃ ticket, r.entered[a.asked]? = some (.snapshot ticket)
  subject : ∀ a ∈ r.attempts, ∃ i, r.Subject a i
  le_asked : ∀ a ∈ r.attempts, a.asked ≤ r.asked
  ordered : r.attempts.Pairwise Attempt.Before
  drop : ∀ n m, (n, m) ∈ r.drops → r.Drop n m
  /-- The tombstones of a tick enter before later ticks ask. -/
  separate : ∀ n m, (n, m) ∈ r.drops → ∀ b ∈ r.attempts, m < b.asked → n < b.asked
  /-- Nobody but a tick sends tombstones. -/
  tombstone : ∀ n key, r.entered[n]? = some (.tombstone key) → ∃ m, (n, m) ∈ r.drops
  /-- One-shot states are dropped before the next tick tries anything. -/
  settled : ∀ a ∈ r.attempts, ∀ b ∈ r.attempts,
    a.state.isOneShot = true → a.asked < b.asked → r.Dropped a

theorem sound_empty : Sound {} where
  asked_le := Nat.le_refl 0
  snapshot := by
    intro a ha
    cases ha
  subject := by
    intro a ha
    cases ha
  le_asked := by
    intro a ha
    cases ha
  ordered := List.Pairwise.nil
  drop := by
    intro n m hd
    cases hd
  separate := by
    intro n m hd
    cases hd
  tombstone := by
    intro n key hn
    simp at hn
  settled := by
    intro a ha
    cases ha

/-! ### A longer history -/

variable {r : Record}

/-- What is dropped stays dropped. -/
theorem Dropped.mono {r' : Record} {a : Attempt} (hd : r.Dropped a)
    (hentered : r.entered <+: r'.entered) (hdrops : ∀ d ∈ r.drops, d ∈ r'.drops) :
    r'.Dropped a := by
  obtain ⟨n, hn, ht⟩ := hd
  obtain ⟨more, hmore⟩ := hentered
  refine ⟨n, hdrops _ hn, ?_⟩
  rw [← hmore, ← ht]
  exact List.getElem?_append_left (List.getElem?_eq_some_iff.1 ht).1

theorem Drop.getElem?_append {n m : Nat} (hd : r.Drop n m) (c : Command) :
    (r.entered ++ [c])[n]? = r.entered[n]? :=
  List.getElem?_append_left hd.lt_length

/-- The history before the snapshot of an attempt does not grow. -/
theorem Sound.take_asked_append (hs : Sound r) {a : Attempt} (ha : a ∈ r.attempts) (c : Command) :
    (r.entered ++ [c]).take a.asked = r.entered.take a.asked :=
  List.take_append_of_le_length (Nat.le_trans (hs.le_asked a ha) hs.asked_le)

/-- **A longer history** keeps a record sound if the tick's place is kept or is the new one, and the
tombstone of a new command is known. -/
theorem Sound.extend (hs : Sound r) {c : Command} {asked : Nat} {drops : List (Nat × Nat)}
    (hasked : asked = r.asked ∨ asked = r.entered.length)
    (hsub : ∀ d ∈ r.drops, d ∈ drops)
    (hdrops : ∀ n m, (n, m) ∈ drops → (n, m) ∈ r.drops ∨
      (n = r.entered.length ∧ m = r.asked ∧ asked = r.asked ∧
        ∃ a ∈ r.attempts, a.asked = r.asked ∧ a.state.isOneShot = true ∧
          c = .tombstone a.state.key))
    (hc : ∀ key, c = .tombstone key → (r.entered.length, r.asked) ∈ drops) :
    Sound ⟨r.entered ++ [c], asked, r.attempts, drops⟩ := by
  have hle : r.asked ≤ asked ∧ asked ≤ r.entered.length := by
    have := hs.asked_le
    omega
  refine ⟨?_, ?_, ?_, ?_, hs.ordered, ?_, ?_, ?_, ?_⟩
  · show asked ≤ (r.entered ++ [c]).length
    rw [List.length_append]
    omega
  · intro a ha
    obtain ⟨ticket, ht⟩ := hs.snapshot a ha
    refine ⟨ticket, ?_⟩
    rw [← ht]
    exact List.getElem?_append_left (List.getElem?_eq_some_iff.1 ht).1
  · intro a ha
    obtain ⟨i, hi⟩ := hs.subject a ha
    refine ⟨i, ?_⟩
    show Holds ((r.entered ++ [c]).take a.asked) i a.state
    rw [hs.take_asked_append ha]
    exact hi
  · intro a ha
    exact Nat.le_trans (hs.le_asked a ha) hle.1
  · intro n m hd
    -- An old tombstone keeps its reason; the new one has an attempt of the last tick for it.
    rcases hdrops n m hd with hold | ⟨rfl, rfl, hsame, a, ha, haa, hone, rfl⟩
    · have hdrop := hs.drop n m hold
      obtain ⟨a, ha, ham, hone, hn⟩ := hdrop.reason
      refine ⟨hdrop.asked_le, ?_, Nat.le_trans hdrop.le_asked hle.1, fun hlt => ?_, ?_⟩
      · show n < (r.entered ++ [c]).length
        rw [List.length_append]
        exact Nat.lt_add_right _ hdrop.lt_length
      · show n < asked
        have hlt : m < asked := hlt
        rcases hasked with he | he
        · rw [he] at hlt ⊢
          exact hdrop.earlier hlt
        · rw [he]
          exact hdrop.lt_length
      · exact ⟨a, ha, ham, hone, by rw [← hn]; exact hdrop.getElem?_append c⟩
    · refine ⟨hs.asked_le, ?_, hle.1, fun hlt => ?_, ?_⟩
      · simp
      · have hlt : r.asked < asked := hlt
        omega
      · exact ⟨a, ha, haa, hone, by simp⟩
  · intro n m hd b hb hlt
    rcases hdrops n m hd with hold | ⟨rfl, rfl, -, -⟩
    · exact hs.separate n m hold b hb hlt
    · exact absurd (hs.le_asked b hb) (Nat.not_le.2 hlt)
  · intro n key hn
    rcases getElem?_append_singleton_eq_some hn with hold | ⟨rfl, rfl⟩
    · obtain ⟨m, hm⟩ := hs.tombstone n key hold
      exact ⟨m, hsub _ hm⟩
    · exact ⟨r.asked, hc key rfl⟩
  · intro a ha b hb hone hlt
    exact (hs.settled a ha b hb hone hlt).mono (List.prefix_append _ _) hsub

/-! ### The four things that can happen -/

/-- The one-shot states that have been tried are dropped. -/
def AllDropped (r : Record) : Prop :=
  ∀ a ∈ r.attempts, a.state.isOneShot = true → r.Dropped a

/-- **Somebody else's command** enters at any time, if it is no tombstone. -/
theorem Sound.enter (hs : Sound r) {c : Command} (hc : ∀ key, c ≠ .tombstone key) :
    Sound (r.enter c) := by
  refine hs.extend (.inl rfl) (fun d hd => hd) (fun n m hd => .inl hd) fun key he => ?_
  exact absurd he (hc key)

/-- **A tick asks** at any time. -/
theorem Sound.ask (hs : Sound r) (ticket : Nat) : Sound (r.ask ticket) := by
  refine hs.extend (.inr rfl) (fun d hd => hd) (fun n m hd => .inl hd) fun key he => ?_
  cases he

/-- **A tick drops** a one-shot state that it has tried. -/
theorem Sound.drop_of_attempt (hs : Sound r) {a : Attempt} (ha : a ∈ r.attempts)
    (hasked : a.asked = r.asked) (hone : a.state.isOneShot = true) :
    Sound (r.drop a.state.key) := by
  refine hs.extend (.inl rfl) (fun d hd => List.mem_append_left _ hd) (fun n m hd => ?_) ?_
  · rcases List.mem_append.1 hd with hd | hd
    · exact .inl hd
    · have hnm : (n, m) = (r.entered.length, r.asked) := List.mem_singleton.1 hd
      obtain ⟨rfl, rfl⟩ := Prod.mk.inj hnm
      exact .inr ⟨rfl, rfl, rfl, a, ha, hasked, hone, rfl⟩
  · intro key _
    exact List.mem_append_right _ List.mem_cons_self

/-- **A tick tries** a state that was cached when it asked, by ascending key, and after all one-shot
states before it have been dropped. -/
theorem Sound.attempt (hs : Sound r) {ticket i : Nat} {s : CachedState} (now : Int64)
    (ht : r.entered[r.asked]? = some (.snapshot ticket))
    (hi : Holds (r.entered.take r.asked) i s)
    (hkey : ∀ a ∈ r.attempts, a.asked = r.asked → compare a.state.key s.key = .lt)
    (hall : r.AllDropped) : Sound (r.attempt s now) := by
  have hmem : ∀ a ∈ (r.attempt s now).attempts, a ∈ r.attempts ∨ a = ⟨r.asked, s, now⟩ := by
    intro a ha
    rcases List.mem_append.1 ha with ha | ha
    · exact .inl ha
    · exact .inr (List.mem_singleton.1 ha)
  have hle : ∀ a ∈ (r.attempt s now).attempts, a.asked ≤ r.asked := by
    intro a ha
    rcases hmem a ha with ha | rfl
    · exact hs.le_asked a ha
    · exact Nat.le_refl _
  refine ⟨hs.asked_le, ?_, ?_, hle, ?_, ?_, ?_, hs.tombstone, ?_⟩
  · intro a ha
    rcases hmem a ha with ha | rfl
    · exact hs.snapshot a ha
    · exact ⟨ticket, ht⟩
  · intro a ha
    rcases hmem a ha with ha | rfl
    · exact hs.subject a ha
    · exact ⟨i, hi⟩
  · refine List.pairwise_append.2 ⟨hs.ordered, List.pairwise_singleton _ _, fun a ha b hb => ?_⟩
    obtain rfl := List.mem_singleton.1 hb
    rcases Nat.lt_or_eq_of_le (hs.le_asked a ha) with hlt | heq
    · exact .inl hlt
    · exact .inr ⟨heq, hkey a ha heq⟩
  · intro n m hd
    have hdrop := hs.drop n m hd
    obtain ⟨a, ha, ham, hone, hn⟩ := hdrop.reason
    exact ⟨hdrop.asked_le, hdrop.lt_length, hdrop.le_asked, hdrop.earlier,
      a, List.mem_append_left _ ha, ham, hone, hn⟩
  · intro n m hd b hb hlt
    rcases hmem b hb with hb | rfl
    · exact hs.separate n m hd b hb hlt
    · exact (hs.drop n m hd).earlier hlt
  · intro a ha b hb hone hlt
    rcases hmem a ha with ha | rfl
    · exact hall a ha hone
    · exact absurd (hle b hb) (Nat.not_le.2 hlt)

/-! ### What follows -/

/-- A command caches one state. -/
theorem Subject.state_eq {a b : Attempt} {i : Nat} (ha : r.Subject a i) (hb : r.Subject b i) :
    a.state = b.state := by
  have hu := (holds_take_iff.1 ha).2.1.symm.trans (holds_take_iff.1 hb).2.1
  simpa using hu

/-- Of two attempts with one subject neither is before the other: the tombstone of the earlier one
would lie between the two snapshots. -/
theorem Sound.not_before (hs : Sound r) {a b : Attempt} {i : Nat} (ha : a ∈ r.attempts)
    (hb : b ∈ r.attempts) (hai : r.Subject a i) (hbi : r.Subject b i)
    (hone : a.state.isOneShot = true) : ¬ a.Before b := by
  have hstate : a.state = b.state := hai.state_eq hbi
  rintro (hlt | ⟨-, hkey⟩)
  · -- Two ticks: the tombstone of the first is after the subject and before the second asks.
    obtain ⟨n, hd, hn⟩ := hs.settled a ha b hb hone hlt
    have hin : i < n := by
      have hia := (holds_take_iff.1 hai).1
      have han := (hs.drop n _ hd).asked_le
      omega
    have hnb : n < b.asked := hs.separate n _ hd b hb hlt
    obtain ⟨-, -, hquiet⟩ := holds_take_iff.1 hbi
    refine hquiet n _ hin hnb hn ?_
    rw [hstate]
    rfl
  · -- One tick: it tries each key once.
    rw [hstate] at hkey
    simp at hkey

/-- **A one-shot state** is tried once, however often its key is cached and whatever becomes of the
attempts. -/
theorem Sound.attempt_unique (hs : Sound r) {p q i : Nat} {a b : Attempt}
    (ha : r.attempts[p]? = some a) (hb : r.attempts[q]? = some b) (hai : r.Subject a i)
    (hbi : r.Subject b i) (hone : a.state.isOneShot = true) : p = q := by
  obtain ⟨hlta, hea⟩ := List.getElem?_eq_some_iff.1 ha
  obtain ⟨hltb, heb⟩ := List.getElem?_eq_some_iff.1 hb
  have hma : a ∈ r.attempts := List.mem_of_getElem? ha
  have hmb : b ∈ r.attempts := List.mem_of_getElem? hb
  have hordered := List.pairwise_iff_getElem.1 hs.ordered
  rcases Nat.lt_trichotomy p q with hlt | heq | hgt
  · have hbefore := hordered p q hlta hltb hlt
    rw [hea, heb] at hbefore
    exact absurd hbefore (hs.not_before hma hmb hai hbi hone)
  · exact heq
  · have hbefore := hordered q p hltb hlta hgt
    rw [hea, heb] at hbefore
    rw [hai.state_eq hbi] at hone
    exact absurd hbefore (hs.not_before hmb hma hbi hai hone)

/-- A tick has tried the state that a command had cached, because of this command. -/
def Tried (r : Record) (i : Nat) (s : CachedState) : Prop :=
  s.isOneShot = true ∧ ∃ a ∈ r.attempts, a.state = s ∧ r.Subject a i

/-- **A tombstone** removes what its tick has tried exactly if that had been cached when the tick
asked. -/
theorem Sound.tried_iff (hs : Sound r) {n m i : Nat} {s : CachedState} (hd : (n, m) ∈ r.drops)
    (hn : r.entered[n]? = some (.tombstone s.key)) (hi : Holds (r.entered.take n) i s) :
    r.Tried i s ↔ i < m := by
  have hin : i < n := (holds_take_iff.1 hi).1
  constructor
  · rintro ⟨hone, a, ha, rfl, hai⟩
    obtain ⟨hia, -, hquiet⟩ := holds_take_iff.1 hai
    rcases Nat.lt_or_ge m a.asked with hlt | hge
    · -- A later tick cannot have found the state: the tombstone was there before it asked.
      have hna := hs.separate n m hd a ha hlt
      exact absurd rfl (hquiet n _ hin hna hn)
    · exact Nat.lt_of_lt_of_le hia hge
  · intro him
    have hdrop := hs.drop n m hd
    obtain ⟨a, ha, rfl, hone, hna⟩ := hdrop.reason
    have hkey : a.state.key = s.key := by
      rw [hn] at hna
      simpa using hna.symm
    -- Under the key one command holds a state at the tick's place, so it is the one that was tried.
    obtain ⟨j, hj⟩ := hs.subject a ha
    have him' : Holds (r.entered.take a.asked) i s := hi.take_of_le him hdrop.asked_le
    obtain ⟨rfl, hstate⟩ := hj.unique him' hkey
    exact ⟨hstate ▸ hone, a, ha, hstate, hj⟩

end Record

end AlertRelay
