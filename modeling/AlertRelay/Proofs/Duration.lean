/-
AlertRelay/Proofs/Duration.lean

Which texts are spans of time, and which ones.

A span is written as a number and a unit (`Spells`).  It is counted in a word of 64 bits, in
milliseconds or in seconds, and a text means a span if the count fits into the word and is not zero
(`Means`).  A number that is too great for the word itself is refused.  Milliseconds and seconds are
counted as they are, so only minutes and hours can have a number that fits and a count that does
not; whoever reads such a text breaks off (`Overflows`).

These are the three things that can become of a text (`verdict`), and no two of them at once.  Every
span that is read takes some time.
-/
import AlertRelay.Proofs.Number.Decimal
import AlertRelay.Proofs.Text.Cut
import AlertRelay.Settings.Basic

namespace AlertRelay

/-! ### The grammar -/

/-- The units in which a span is written. -/
inductive TimeUnit where
  | milliseconds
  | seconds
  | minutes
  | hours
deriving DecidableEq, Repr

namespace TimeUnit

/-- What stands for a unit behind its number. -/
def marks : TimeUnit → List String
  | .milliseconds => ["ms"]
  | .seconds => ["", "s"]
  | .minutes => ["m"]
  | .hours => ["h"]

/-- The nanoseconds of a unit. -/
def nanos : TimeUnit → Nat
  | .milliseconds => 1000000
  | .seconds => 1000000000
  | .minutes => 60 * 1000000000
  | .hours => 3600 * 1000000000

/-- What a unit counts for in the word: milliseconds count as such, all others in seconds. -/
def grains : TimeUnit → Nat
  | .milliseconds => 1
  | .seconds => 1
  | .minutes => 60
  | .hours => 3600

theorem nanos_pos (u : TimeUnit) : 0 < u.nanos := by
  cases u <;> decide

theorem grains_pos (u : TimeUnit) : 0 < u.grains := by
  cases u <;> decide

end TimeUnit

namespace Duration

/-- A text that is a number, in one or more digits, and a unit. -/
def Spells (text : String) (n : Nat) (u : TimeUnit) : Prop :=
  ∃ digits mark : String, text = digits ++ mark ∧ mark ∈ u.marks ∧ digits ≠ "" ∧
    (∀ c ∈ digits.toList, c.isDigit = true) ∧ Nat.ofDigitChars 10 digits.toList 0 = n

/-- What a text means, blanks around it left out: a number of units that is not zero, and can be
counted in a word. -/
def Means (text : String) (d : Duration) : Prop :=
  ∃ n u, Spells (trimmed text) n u ∧ 0 < n ∧ n * u.grains < UInt64.size ∧ d = ⟨n * u.nanos⟩

/-- A text whose number fits into a word and whose count does not. -/
def Overflows (text : String) : Prop :=
  ∃ n u, Spells (trimmed text) n u ∧ n < UInt64.size ∧ UInt64.size ≤ n * u.grains

/-! ### Reading -/

/-- A mark begins with no digit, so the digits of a text end where it begins. -/
theorem cut_at_mark {u : TimeUnit} {mark : String} (hmark : mark ∈ u.marks) {digits : List Char}
    (hdigits : ∀ c ∈ digits, c.isDigit = true) :
    (digits ++ mark.toList).takeWhile Char.isDigit = digits ∧
      (digits ++ mark.toList).dropWhile Char.isDigit = mark.toList := by
  have hstop : ∀ c ∈ mark.toList.head?, c.isDigit = false := by
    revert mark
    cases u <;> simp [TimeUnit.marks, Char.isDigit]
  exact ⟨takeWhile_append_of_stop hdigits hstop, dropWhile_append_of_stop hdigits hstop⟩

/-- A mark stands for one unit only. -/
theorem unit_of_mark {u u' : TimeUnit} {mark : String} (h : mark ∈ u.marks) (h' : mark ∈ u'.marks) :
    u = u' := by
  revert mark
  cases u <;> cases u' <;> decide

/-- **A text** spells a number of a unit if its digits spell the number and the unit follows. -/
theorem spells_iff {text : String} {n : Nat} {u : TimeUnit} :
    Spells text n u ↔ Decimal.value? (text.toList.takeWhile Char.isDigit) = some n ∧
      String.ofList (text.toList.dropWhile Char.isDigit) ∈ u.marks := by
  rw [Decimal.value?_eq_some_iff]
  constructor
  · rintro ⟨digits, mark, rfl, hmark, hne, hdigits, hn⟩
    obtain ⟨htake, hdrop⟩ := cut_at_mark hmark hdigits
    have hsome : digits.toList ≠ [] := by simpa using hne
    rw [String.toList_append, htake, hdrop, String.ofList_toList]
    exact ⟨⟨hsome, hdigits, hn⟩, hmark⟩
  · rintro ⟨⟨hsome, hdigits, hn⟩, hmark⟩
    refine ⟨String.ofList (text.toList.takeWhile Char.isDigit), _, ?_, hmark, ?_, ?_, ?_⟩
    · rw [← String.ofList_append, List.takeWhile_append_dropWhile, String.ofList_toList]
    · simpa using hsome
    · rwa [String.toList_ofList]
    · rwa [String.toList_ofList]

/-- No text spells more than one number of one unit. -/
theorem Spells.unique {text : String} {n n' : Nat} {u u' : TimeUnit} (h : Spells text n u)
    (h' : Spells text n' u') : n = n' ∧ u = u' := by
  obtain ⟨hn, hmark⟩ := spells_iff.1 h
  obtain ⟨hn', hmark'⟩ := spells_iff.1 h'
  exact ⟨Option.some.inj (hn.symm.trans hn'), unit_of_mark hmark hmark'⟩

/-- Seconds that do not fit into a word are not counted. -/
theorem ofManySeconds_eq (n each : Nat) :
    ofManySeconds n each =
      if n * each < UInt64.size then .ok ⟨n * (each * 1000000000)⟩ else .error .overflow := by
  have hgreatest : greatestNumber < n * each ↔ ¬ n * each < UInt64.size := by
    rw [show UInt64.size = greatestNumber + 1 from rfl]
    omega
  simp only [ofManySeconds, hgreatest, ite_not, ofSeconds, Nat.mul_assoc]

/-- The count of a span has to fit into a word. -/
theorem ofUnit_of_mark {n : Nat} (hn : n < UInt64.size) {u : TimeUnit} {mark : String}
    (hmark : mark ∈ u.marks) :
    ofUnit n mark =
      if n * u.grains < UInt64.size then .ok ⟨n * u.nanos⟩ else .error .overflow := by
  have hone : n * 1 < UInt64.size := by rwa [Nat.mul_one]
  cases u <;> simp only [TimeUnit.marks, List.mem_cons, List.not_mem_nil, or_false] at hmark
  case milliseconds =>
    subst hmark
    exact (if_pos hone).symm
  case seconds =>
    rcases hmark with rfl | rfl <;> exact (if_pos hone).symm
  case minutes =>
    subst hmark
    exact ofManySeconds_eq n 60
  case hours =>
    subst hmark
    exact ofManySeconds_eq n 3600

/-- What is no mark is no unit. -/
theorem ofUnit_of_not_mark {mark : String} (h : ∀ u : TimeUnit, mark ∉ u.marks) (n : Nat) :
    ofUnit n mark = .error .malformed := by
  have hms : mark ≠ "ms" := by simpa [TimeUnit.marks] using h .milliseconds
  have hs : mark ≠ "" ∧ mark ≠ "s" := by simpa [TimeUnit.marks] using h .seconds
  have hm : mark ≠ "m" := by simpa [TimeUnit.marks] using h .minutes
  have hh : mark ≠ "h" := by simpa [TimeUnit.marks] using h .hours
  unfold ofUnit
  split
  · exact absurd rfl hms
  · exact absurd rfl hs.1
  · exact absurd rfl hs.2
  · exact absurd rfl hm
  · exact absurd rfl hh
  · rfl

/-- What becomes of a text without blanks around it. -/
inductive Parsed (text : String) : Except DurationFault Duration → Prop
  | counts (n : Nat) (u : TimeUnit) (spells : Spells text n u) (pos : 0 < n)
      (fits : n * u.grains < UInt64.size) : Parsed text (.ok ⟨n * u.nanos⟩)
  | overflows (n : Nat) (u : TimeUnit) (spells : Spells text n u) (small : n < UInt64.size)
      (great : UInt64.size ≤ n * u.grains) : Parsed text (.error .overflow)
  | malformed (nothing : ∀ n u, Spells text n u → n = 0 ∨ UInt64.size ≤ n) :
      Parsed text (.error .malformed)

theorem parsed (text : String) : Parsed text (parse text) := by
  have hdigit : (fun c => (Decimal.digit? c).isSome) = Char.isDigit :=
    funext Decimal.isSome_digit?
  have hgreatest : ∀ n, greatestNumber < n ↔ UInt64.size ≤ n := fun _ => Iff.rfl
  simp only [parse, hdigit, hgreatest]
  cases hvalue : Decimal.value? (text.toList.takeWhile Char.isDigit) with
  | none =>
    refine .malformed fun n u hspells => ?_
    simp [(spells_iff.1 hspells).1] at hvalue
  | some n =>
    have hn : ∀ n' u, Spells text n' u → n' = n := by
      intro n' u hspells
      exact Option.some.inj ((spells_iff.1 hspells).1.symm.trans hvalue)
    dsimp only
    by_cases hlarge : UInt64.size ≤ n
    · rw [if_pos hlarge]
      exact .malformed fun n' u hspells => .inr (hn n' u hspells ▸ hlarge)
    · rw [if_neg hlarge]
      have hsmall := Nat.lt_of_not_le hlarge
      by_cases hmark : ∃ u : TimeUnit,
          String.ofList (text.toList.dropWhile Char.isDigit) ∈ u.marks
      · obtain ⟨u, hmark⟩ := hmark
        have hspells : Spells text n u := spells_iff.2 ⟨hvalue, hmark⟩
        rw [ofUnit_of_mark hsmall hmark]
        by_cases hfits : n * u.grains < UInt64.size
        · rw [if_pos hfits]
          dsimp only
          by_cases hpos : 0 < n
          · rw [if_neg (Nat.ne_of_gt (Nat.mul_pos hpos u.nanos_pos))]
            exact .counts n u hspells hpos hfits
          · obtain rfl : n = 0 := Nat.eq_zero_of_not_pos hpos
            rw [if_pos (Nat.zero_mul _)]
            exact .malformed fun n' u hspells => .inl (hn n' u hspells)
        · rw [if_neg hfits]
          exact .overflows n u hspells hsmall (Nat.le_of_not_lt hfits)
      · rw [ofUnit_of_not_mark fun u hu => hmark ⟨u, hu⟩]
        exact .malformed fun n' u hspells => absurd ⟨u, (spells_iff.1 hspells).2⟩ hmark

variable {text : String} {d d' : Duration}

/-- A text means one span at most. -/
theorem Means.unique (h : Means text d) (h' : Means text d') : d = d' := by
  obtain ⟨n, u, hspells, -, -, rfl⟩ := h
  obtain ⟨n', u', hspells', -, -, rfl⟩ := h'
  obtain ⟨rfl, rfl⟩ := hspells.unique hspells'
  rfl

theorem Means.not_overflows (h : Means text d) : ¬ Overflows text := by
  obtain ⟨n, u, hspells, -, hfits, -⟩ := h
  rintro ⟨n', u', hspells', -, hgreat⟩
  obtain ⟨rfl, rfl⟩ := hspells.unique hspells'
  exact absurd hfits (Nat.not_lt_of_ge hgreat)

/-- What becomes of a text. -/
inductive Verdict (text : String) : Except SpanFault Duration → Prop
  | means (d : Duration) (means : Means text d) : Verdict text (.ok d)
  | overflows (overflows : Overflows text) : Verdict text (.error .overflow)
  | refused (nothing : ∀ d, ¬ Means text d) (small : ¬ Overflows text) :
      Verdict text (.error (.refused (.invalidDuration (trimmed text))))

/-- **A text** is read as the span that it means, or outgrows its word, or is refused. -/
theorem verdict (text : String) : Verdict text (readDuration text) := by
  have hparsed := parsed (trimmed text)
  unfold readDuration
  generalize parse (trimmed text) = result at hparsed
  cases hparsed with
  | counts n u spells pos fits => exact .means _ ⟨n, u, spells, pos, fits, rfl⟩
  | overflows n u spells small great => exact .overflows ⟨n, u, spells, small, great⟩
  | malformed nothing =>
    refine .refused ?_ ?_
    · rintro d ⟨n, u, hspells, hpos, hfits, -⟩
      have hle := Nat.le_mul_of_pos_right n u.grains_pos
      have := nothing n u hspells
      omega
    · rintro ⟨n, u, hspells, hsmall, hgreat⟩
      rcases nothing n u hspells with rfl | hlarge
      · rw [Nat.zero_mul] at hgreat
        exact absurd hgreat (by decide)
      · exact absurd hsmall (Nat.not_lt_of_ge hlarge)

theorem readDuration_eq_ok_iff : readDuration text = .ok d ↔ Means text d := by
  have hverdict := verdict text
  generalize readDuration text = result at hverdict
  cases hverdict with
  | means d' means =>
    rw [Except.ok.injEq]
    exact ⟨fun h => h ▸ means, fun h => means.unique h⟩
  | overflows overflows => exact iff_of_false nofun fun h => h.not_overflows overflows
  | refused nothing small => exact iff_of_false nofun (nothing d)

theorem readDuration_eq_overflow_iff : readDuration text = .error .overflow ↔ Overflows text := by
  have hverdict := verdict text
  generalize readDuration text = result at hverdict
  cases hverdict with
  | means d' means => exact iff_of_false nofun means.not_overflows
  | overflows overflows => exact iff_of_true rfl overflows
  | refused nothing small => exact iff_of_false nofun small

/-- Nothing but the text without the blanks around it is told of a text that is refused. -/
theorem readDuration_eq_refused_iff {f : SettingsFault} :
    readDuration text = .error (.refused f) ↔
      f = .invalidDuration (trimmed text) ∧ (∀ d, ¬ Means text d) ∧ ¬ Overflows text := by
  have hverdict := verdict text
  generalize readDuration text = result at hverdict
  cases hverdict with
  | means d' means => exact iff_of_false nofun fun h => h.2.1 d' means
  | overflows overflows => exact iff_of_false nofun fun h => h.2.2 overflows
  | refused nothing small =>
    rw [Except.error.injEq, SpanFault.refused.injEq]
    exact ⟨fun h => ⟨h.symm, nothing, small⟩, fun h => h.1.symm⟩

/-- Only minutes and hours are more than fit into the word although their number fits. -/
theorem overflows_iff :
    Overflows text ↔ ∃ n < 2 ^ 64, (Spells (trimmed text) n .minutes ∧ 307445734561825861 ≤ n) ∨
      (Spells (trimmed text) n .hours ∧ 5124095576030432 ≤ n) := by
  simp only [Overflows, show UInt64.size = 18446744073709551616 from rfl, Nat.reducePow]
  constructor
  · rintro ⟨n, u, hspells, hsmall, hgreat⟩
    refine ⟨n, hsmall, ?_⟩
    cases u <;> simp only [TimeUnit.grains] at hgreat
    case milliseconds => omega
    case seconds => omega
    case minutes => exact .inl ⟨hspells, by omega⟩
    case hours => exact .inr ⟨hspells, by omega⟩
  · rintro ⟨n, hsmall, ⟨hspells, hgreat⟩ | ⟨hspells, hgreat⟩⟩
    · exact ⟨n, .minutes, hspells, hsmall, by simp only [TimeUnit.grains]; omega⟩
    · exact ⟨n, .hours, hspells, hsmall, by simp only [TimeUnit.grains]; omega⟩

/-- **Every span that is read** takes some time. -/
theorem pos_of_read (h : readDuration text = .ok d) : 0 < d.nanos := by
  obtain ⟨n, u, -, hn, -, rfl⟩ := readDuration_eq_ok_iff.1 h
  exact Nat.mul_pos hn u.nanos_pos

/-- The seconds of a span that is read fit into a word. -/
theorem seconds_lt_of_read (h : readDuration text = .ok d) : d.seconds < UInt64.size := by
  obtain ⟨n, u, -, -, hfits, rfl⟩ := readDuration_eq_ok_iff.1 h
  refine Nat.lt_of_le_of_lt ?_ hfits
  cases u <;> simp only [seconds, TimeUnit.nanos, TimeUnit.grains] <;> omega

/-- **Whole seconds** are read of every text but those of milliseconds that are none. -/
theorem subsecond_eq_zero_iff (h : readDuration text = .ok d) :
    d.subsecond = 0 ↔ ∀ n, Spells (trimmed text) n .milliseconds → 1000 ∣ n := by
  obtain ⟨n, u, hspells, -, -, rfl⟩ := readDuration_eq_ok_iff.1 h
  by_cases hu : u = .milliseconds
  · subst hu
    have hrest : n * 1000000 % 1000000000 = 0 ↔ 1000 ∣ n := by omega
    rw [subsecond, TimeUnit.nanos, hrest]
    constructor
    · intro hn n' hspells'
      obtain ⟨rfl, -⟩ := hspells.unique hspells'
      exact hn
    · intro hall
      exact hall n hspells
  · have hwhole : n * u.nanos % 1000000000 = 0 := by
      cases u <;> simp only [TimeUnit.nanos]
      case milliseconds => exact absurd rfl hu
      all_goals omega
    refine iff_of_true hwhole fun n' hspells' => ?_
    exact absurd (hspells.unique hspells').2 hu

/-- A text that is read begins with a blank or with a digit. -/
theorem head?_ne_dash_of_read (h : readDuration text = .ok d) : text.toList.head? ≠ some '-' := by
  obtain ⟨n, u, ⟨digits, mark, hspelled, -, hne, hdigits, -⟩, -⟩ := readDuration_eq_ok_iff.1 h
  obtain ⟨before, after, htext, hbefore, -⟩ := exists_trimmed text
  rw [htext, hspelled]
  intro hhead
  cases hb : before.toList with
  | nil =>
    cases hd : digits.toList with
    | nil => exact hne (String.toList_eq_nil_iff.1 hd)
    | cons c rest =>
      simp only [String.toList_append, hb, hd, List.nil_append, List.cons_append,
        List.head?_cons, Option.some.injEq] at hhead
      have hdigit := hdigits c (by simp [hd])
      simp [hhead, Char.isDigit] at hdigit
  | cons c rest =>
    simp only [String.toList_append, hb, List.cons_append, List.head?_cons,
      Option.some.injEq] at hhead
    have hblank := hbefore c (by simp [hb])
    rw [hhead] at hblank
    exact absurd hblank (by decide)

/-- How a text is read. -/
structure Reading (text : String) : Prop where
  /-- Blanks around a text do not count. -/
  stripped : ∃ before after : String, text = before ++ trimmed text ++ after ∧
    (∀ c ∈ before.toList, isBlank c = true) ∧ (∀ c ∈ after.toList, isBlank c = true) ∧
    (∀ c ∈ (trimmed text).toList.head?, isBlank c = false) ∧
    ∀ c ∈ (trimmed text).toList.getLast?, isBlank c = false
  /-- What is read is what the text means. -/
  ok_iff : ∀ d, readDuration text = .ok d ↔ Means text d
  /-- Whoever reads very many minutes or hours breaks off. -/
  overflow_iff : readDuration text = .error .overflow ↔
    ∃ n < 2 ^ 64, (Spells (trimmed text) n .minutes ∧ 307445734561825861 ≤ n) ∨
      (Spells (trimmed text) n .hours ∧ 5124095576030432 ≤ n)
  /-- Any other text is refused, and named without the blanks around it. -/
  refused_iff : ∀ f, readDuration text = .error (.refused f) ↔
    f = .invalidDuration (trimmed text) ∧ (∀ d, ¬ Means text d) ∧
      readDuration text ≠ .error .overflow
  pos : ∀ d, readDuration text = .ok d → 0 < d.nanos

/-- **A text** is a span of time in one way only. -/
theorem reading (text : String) : Reading text where
  stripped := exists_trimmed text
  ok_iff _ := readDuration_eq_ok_iff
  overflow_iff := readDuration_eq_overflow_iff.trans overflows_iff
  refused_iff f := by
    rw [readDuration_eq_refused_iff, ne_eq, readDuration_eq_overflow_iff]
  pos _ := pos_of_read

end Duration

end AlertRelay
