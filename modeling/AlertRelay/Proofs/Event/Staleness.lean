/-
AlertRelay/Proofs/Event/Staleness.lean

When a state is no longer believed.

The time of a state is what its sender says, and so is its window, so the three words that are
compared may be any.  The difference of two of them may lie outside of the word, and is then cut off
at its end.  At the lower end this does no harm, for an age below zero exceeds no window.  At the
upper end the age is cut off at the greatest number.  This still exceeds every other number, so only
a window of the greatest number itself is taken for one that never ends.

So a state is stale exactly if whole numbers say so, but for this one window
(`isSome_staleFor_iff`), and the age in the report is the true one as far as a word reaches
(`toInt_of_staleFor`).
-/
import AlertRelay.Event

namespace AlertRelay

/-! ### Elapsed time -/

/-- **The elapsed time** is the difference, cut off at the ends of the word. -/
theorem toInt_elapsed (since now : Int64) :
    (elapsed since now).toInt =
      max Int64.minValue.toInt (min Int64.maxValue.toInt (now.toInt - since.toInt)) := by
  unfold elapsed
  rw [Int64.toInt_minValue, Int64.toInt_maxValue]
  exact Int64.toInt_ofInt_of_le (by omega) (by omega)

/-- Where the difference of two words is one, nothing is cut off. -/
theorem elapsed_eq_sub {since now : Int64} (hleast : Int64.minValue.toInt ≤ now.toInt - since.toInt)
    (hgreatest : now.toInt - since.toInt ≤ Int64.maxValue.toInt) :
    elapsed since now = now - since := by
  have hsame : (elapsed since now).toInt = now.toInt - since.toInt := by
    rw [toInt_elapsed]
    omega
  rw [← Int64.ofInt_toInt (elapsed since now), hsame, Int64.ofInt_sub, Int64.ofInt_toInt,
    Int64.ofInt_toInt]

namespace CachedState

variable {s : CachedState} {now : Int64}

/-! ### Stale states -/

/-- What it is to be silent for longer than one is believed, in whole numbers.  A window of the
greatest number never ends. -/
def IsStale (s : CachedState) (now : Int64) : Prop :=
  0 ≤ s.ttl.toInt ∧ s.ttl.toInt < Int64.maxValue.toInt ∧
    s.ttl.toInt < now.toInt - s.event.time.toInt

instance (s : CachedState) (now : Int64) : Decidable (s.IsStale now) :=
  inferInstanceAs (Decidable (_ ∧ _ ∧ _))

/-- The age that is told of a stale state: the true one, as far as a word reaches. -/
def toldAge (s : CachedState) (now : Int64) : Int :=
  min (now.toInt - s.event.time.toInt) Int64.maxValue.toInt

/-- The comparison of words is one of whole numbers. -/
theorem exceeded_iff : (0 ≤ s.ttl ∧ s.ttl < elapsed s.event.time now) ↔ s.IsStale now := by
  have hlt := s.ttl.toInt_lt
  rw [Int64.le_iff_toInt_le, Int64.lt_iff_toInt_lt, toInt_elapsed, Int64.toInt_zero, IsStale,
    Int64.toInt_minValue, Int64.toInt_maxValue]
  omega

theorem staleFor_eq :
    s.staleFor now = if s.IsStale now then some (elapsed s.event.time now) else none := by
  unfold staleFor
  simp only [exceeded_iff]

/-- **A state is stale** exactly if whole numbers say so. -/
theorem isSome_staleFor_iff : (s.staleFor now).isSome ↔ s.IsStale now := by
  rw [staleFor_eq]
  by_cases hstale : s.IsStale now <;> simp [hstale]

/-- The elapsed time of a stale state is cut off at the upper end only. -/
theorem IsStale.toInt_elapsed (h : s.IsStale now) :
    (elapsed s.event.time now).toInt = s.toldAge now := by
  obtain ⟨hzero, -, hage⟩ := h
  rw [AlertRelay.toInt_elapsed, toldAge, Int64.toInt_minValue, Int64.toInt_maxValue]
  omega

/-- **The age** that is told is never below zero, and greater than the window. -/
theorem toInt_of_staleFor {age : Int64} (h : s.staleFor now = some age) :
    age.toInt = s.toldAge now ∧ 0 ≤ age.toInt ∧ s.ttl.toInt < age.toInt := by
  have hstale : s.IsStale now := isSome_staleFor_iff.1 (by rw [h]; rfl)
  rw [staleFor_eq, if_pos hstale] at h
  obtain rfl : elapsed s.event.time now = age := Option.some.inj h
  rw [hstale.toInt_elapsed]
  obtain ⟨hzero, hgreatest, hage⟩ := hstale
  refine ⟨rfl, ?_⟩
  unfold toldAge
  omega

/-- A state that is stale stays so. -/
theorem IsStale.later (h : s.IsStale now) {now' : Int64} (hle : now ≤ now') : s.IsStale now' := by
  obtain ⟨hzero, hgreatest, hage⟩ := h
  have hle := Int64.le_iff_toInt_le.1 hle
  exact ⟨hzero, hgreatest, by omega⟩

/-- With a smaller window a state is stale all the more. -/
theorem IsStale.smaller (h : s.IsStale now) {ttl : Int64} (hzero : 0 ≤ ttl) (hle : ttl ≤ s.ttl) :
    IsStale { s with ttl := ttl } now := by
  obtain ⟨-, hgreatest, hage⟩ := h
  have hzero := Int64.le_iff_toInt_le.1 hzero
  have hle := Int64.le_iff_toInt_le.1 hle
  exact ⟨hzero, Int.lt_of_le_of_lt hle hgreatest, Int.lt_of_le_of_lt hle hage⟩

/-! ### The event that goes out -/

/-- The report that a state is stale. -/
def staleReport (s : CachedState) (now : Int64) : Event :=
  { s.event with
    time := now
    state := "UNKNOWN"
    summary := "httpbroker: Cached state is stale (" ++ toString (s.toldAge now) ++
      "s old, should be < " ++ toString s.ttl.toInt ++ "s)" }

/-- **What goes out** for a state is the report that it is stale, or its event at another time. -/
theorem outgoing_eq :
    s.outgoing now =
      if s.IsStale now then s.staleReport now else { s.event with time := now } := by
  unfold outgoing
  rw [staleFor_eq]
  by_cases hstale : s.IsStale now
  · rw [if_pos hstale, if_pos hstale]
    show { s.event with
      time := now
      state := staleState
      summary := staleSummary (elapsed s.event.time now) s.ttl } = _
    unfold staleSummary
    rw [hstale.toInt_elapsed]
    rfl
  · rw [if_neg hstale, if_neg hstale]

/-- How a state is judged at some time. -/
structure Judged (s : CachedState) (now : Int64) : Prop where
  /-- Another state and summary go out exactly if the state is stale, and otherwise nothing but the
  time is another. -/
  outgoing : s.outgoing now =
    if s.IsStale now then s.staleReport now else { s.event with time := now }
  isSome_iff : (s.staleFor now).isSome ↔ s.IsStale now
  /-- The age that is told lies above the window. -/
  age : ∀ age, s.staleFor now = some age →
    age.toInt = s.toldAge now ∧ 0 ≤ age.toInt ∧ s.ttl.toInt < age.toInt
  later : ∀ now', now ≤ now' → (s.staleFor now).isSome → (s.staleFor now').isSome
  smaller : ∀ ttl, 0 ≤ ttl → ttl ≤ s.ttl → (s.staleFor now).isSome →
    (staleFor { s with ttl := ttl } now).isSome
  /-- The difference is cut off, and nothing of it is lost otherwise. -/
  elapsed : (elapsed s.event.time now).toInt =
    max Int64.minValue.toInt (min Int64.maxValue.toInt (now.toInt - s.event.time.toInt))
  /-- It is that of the machine where this one is the true one. -/
  sub : Int64.minValue.toInt ≤ now.toInt - s.event.time.toInt →
    now.toInt - s.event.time.toInt ≤ Int64.maxValue.toInt →
    AlertRelay.elapsed s.event.time now = now - s.event.time

/-- **Every state** is judged as whole numbers say, whatever the words. -/
theorem judged (s : CachedState) (now : Int64) : s.Judged now where
  outgoing := outgoing_eq
  isSome_iff := isSome_staleFor_iff
  age _ h := toInt_of_staleFor h
  later _ hle h := isSome_staleFor_iff.2 ((isSome_staleFor_iff.1 h).later hle)
  smaller _ hzero hle h := isSome_staleFor_iff.2 ((isSome_staleFor_iff.1 h).smaller hzero hle)
  elapsed := toInt_elapsed s.event.time now
  sub hleast hgreatest := elapsed_eq_sub hleast hgreatest

/-- A state from the beginning of time, with the greatest window that ends. -/
def ancient : CachedState :=
  ⟨.service "web1" "ping" "ok" "fine" Int64.minValue, Int64.maxValue - 1⟩

theorem judged_ancient :
    (ancient.outgoing Int64.maxValue).summary =
        "httpbroker: Cached state is stale (9223372036854775807s old, should be < " ++
          "9223372036854775806s)" ∧
      (staleFor { ancient with ttl := 0 } Int64.maxValue).isSome ∧
      (ancient.staleFor (-2)).isSome = false := by
  have hnow := ancient.judged Int64.maxValue
  have hstale : ancient.IsStale Int64.maxValue := by decide
  refine ⟨?_, hnow.smaller 0 (by decide) (by decide) (hnow.isSome_iff.2 hstale), ?_⟩
  · rw [hnow.outgoing, if_pos hstale]
    decide +kernel
  · -- the age is the window, which is still believed
    have hfresh : ¬ ancient.IsStale (-2) := by decide
    rw [← (ancient.judged (-2)).isSome_iff] at hfresh
    exact eq_false_of_ne_true hfresh

end CachedState

end AlertRelay
