/-
AlertRelay/Proofs/CommandLine/Given.lean

What a flag that is given sets.

There are several ways to give a flag its value (`Flag.Spells`).  Whichever is taken, the value has
been looked at afterwards, or it waits for that (`Progress.Stands`).  No move takes it away: another
flag waits only when none does, and a flag that has been set is not set again (`Move.stands`).

So on a command line without arguments a flag decides what it stands for, wherever in the line it is
given and whatever else is (`parse_given`).  A word after which no word is a flag does not come
before it, for on such a line any word after that is one too many.
-/
import AlertRelay.Proofs.CommandLine.Options
import AlertRelay.Proofs.Text.Cut

namespace AlertRelay

variable {σ : Type} {P : σ → Prop}

/-- The words that give a flag a value. -/
inductive Flag.Spells (f : Flag σ) (v : String) : List String → Prop where
  | long : f.Spells v ["--" ++ f.long, v]
  | longWith : f.Spells v ["--" ++ f.long ++ "=" ++ v]
  | short {n : Char} (hn : f.short = some n) : f.Spells v ["-" ++ String.singleton n, v]
  | shortWith {n : Char} (hn : f.short = some n) :
      f.Spells v ["-" ++ String.singleton n ++ "=" ++ v]
  | joined {n : Char} (hn : f.short = some n) (hv : v ≠ "") (hmark : v.toList.head? ≠ some '=') :
      f.Spells v ["-" ++ String.singleton n ++ v]

namespace CommandLine

/-- A flag with a value that a command line finds by its names. -/
structure Finds (c : CommandLine σ) (f : Flag σ) (read : String → Except UsageFault (σ → σ)) :
    Prop where
  effect : f.effect = .value read
  long : c.long? f.long = some f
  name : f.long ≠ "" ∧ '=' ∉ f.long.toList
  short : ∀ n ∈ f.short, n ≠ '-' ∧ c.short? n = some f

/-- On a command line of flags only, a flag that is given decides something of the options. -/
structure Decides (c : CommandLine σ) (f : Flag σ) (read : String → Except UsageFault (σ → σ))
    (v : String) (P : σ → Prop) : Prop where
  arguments : c.arguments = []
  sets : ∀ set, read v = .ok set → ∀ o, P (set o)
  others : ∀ g ∈ c.flags, g.long ≠ f.long → g.effect.Keeps P

namespace Progress

/-- A flag has been given and what it decides holds. -/
def IsSet (f : Flag σ) (P : σ → Prop) (p : Progress σ) : Prop :=
  f.long ∈ p.given ∧ P p.options

/-- A flag has been given, and its value waits if it has not been looked at. -/
def Stands (f : Flag σ) (read : String → Except UsageFault (σ → σ)) (v : String) (P : σ → Prop)
    (p : Progress σ) : Prop :=
  p.pending = some ⟨f, read, some v⟩ ∨ p.IsSet f P

end Progress

variable {c : CommandLine σ} {p p' : Progress σ} {f : Flag σ}
  {read : String → Except UsageFault (σ → σ)} {v : String}

/-! ### Moves -/

/-- A flag that has been set stays so. -/
theorem Move.isSet (hc : c.Decides f read v P) (h : c.Move p p') (hp : p.IsSet f P) :
    p'.IsSet f P := by
  obtain ⟨hgiven, ho⟩ := hp
  have hother : ∀ {g : Flag σ}, g ∈ c.flags → g.long ∉ p.given → g.effect.Keeps P := by
    intro g hflag hnew
    exact hc.others g hflag fun heq => hnew (heq ▸ hgiven)
  cases h with
  | awaits => exact ⟨hgiven, ho⟩
  | receives => exact ⟨hgiven, ho⟩
  | settles hflag heffect _ hnew hset =>
    have hkeeps := hother hflag hnew
    rw [heffect] at hkeeps
    exact ⟨List.mem_cons_of_mem _ hgiven, hkeeps _ _ hset _ ho⟩
  | sets hflag heffect hnew hset =>
    have hkeeps := hother hflag hnew
    rw [heffect] at hkeeps
    exact ⟨List.mem_cons_of_mem _ hgiven, hkeeps _ _ hset _ ho⟩
  | switches hflag heffect hnew =>
    have hkeeps := hother hflag hnew
    rw [heffect] at hkeeps
    exact ⟨List.mem_cons_of_mem _ hgiven, hkeeps _ ho⟩
  | argues w hset =>
    rw [hc.arguments] at hset
    exact absurd hset List.not_mem_nil
  | closes => exact ⟨hgiven, ho⟩

/-- **A flag that has been given** stays so. -/
theorem Move.stands (hc : c.Decides f read v P) (h : c.Move p p')
    (hp : p.Stands f read v P) : p'.Stands f read v P := by
  rcases hp with hwaits | hset
  · cases h with
    | awaits _ _ hfree => simp [hwaits] at hfree
    | receives _ hnone => simp [hwaits] at hnone
    | settles _ _ hsome _ hset =>
      cases hwaits.symm.trans hsome
      exact .inr ⟨List.mem_cons_self, hc.sets _ hset _⟩
    | sets => exact .inl hwaits
    | switches => exact .inl hwaits
    | argues => exact .inl hwaits
    | closes => exact .inl hwaits
  · exact .inr (h.isSet hc hset)

theorem Moves.isSet (hc : c.Decides f read v P) (h : c.Moves p p') (hp : p.IsSet f P) :
    p'.IsSet f P := by
  induction h with
  | refl => exact hp
  | tail _ hmove ih => exact hmove.isSet hc ih

theorem Moves.stands (hc : c.Decides f read v P) (h : c.Moves p p')
    (hp : p.Stands f read v P) : p'.Stands f read v P := by
  induction h with
  | refl => exact hp
  | tail _ hmove ih => exact hmove.stands hc ih

/-! ### Words -/

/-- A command line without arguments takes no word after which none is a flag. -/
theorem onlyArguments_of_step (hc : c.arguments = []) (hp : p.Belongs c) {w : String}
    (h : c.step p w = .ok p') : p.onlyArguments = false := by
  have hmissing : p.missing = [] := by
    apply List.eq_nil_iff_forall_not_mem.2
    intro set hset
    have hmem := hp.missing set hset
    rw [hc] at hmem
    exact absurd hmem List.not_mem_nil
  cases honly : p.onlyArguments with
  | false => rfl
  | true => simp [step, honly, Progress.word, hmissing] at h

theorem isSet_flagWith (hf : c.Finds f read) (hc : c.Decides f read v P)
    (h : p.flagWith f v = .ok p') : p'.IsSet f P := by
  simp only [Progress.flagWith, hf.effect] at h
  obtain ⟨p₁, -, h⟩ := bind_eq_ok.1 h
  obtain ⟨-, set, hset, rfl⟩ := Progress.assign_eq_ok_iff.1 h
  exact ⟨List.mem_cons_self, hc.sets set hset _⟩

/-- A flag without a value in its word waits for the next one. -/
theorem pending_flag (hf : c.Finds f read) (h : p.flag f = .ok p') :
    p'.pending = some ⟨f, read, none⟩ := by
  obtain ⟨p₁, -, h⟩ := bind_eq_ok.1 h
  simp only [hf.effect] at h
  cases h
  rfl

theorem step_long (honly : p.onlyArguments = false) {w : String} {cs : List Char}
    (hw : w.toList = '-' :: '-' :: cs) (hcs : cs ≠ []) : c.step p w = c.longWord p cs := by
  cases cs with
  | nil => exact absurd rfl hcs
  | cons => simp only [step, honly, hw, Bool.false_eq_true, if_false]

theorem step_short (honly : p.onlyArguments = false) {w : String} {n : Char} {cs : List Char}
    (hw : w.toList = '-' :: n :: cs) (hn : n ≠ '-') : c.step p w = c.shortWord p (n :: cs) := by
  simp only [step, honly, hw, Bool.false_eq_true, if_false]
  split
  · rename_i heq
    simp [hn] at heq
  · rename_i heq
    simp [hn] at heq
  · rename_i heq
    cases heq
    rfl
  · rename_i hnot
    exact absurd rfl (hnot n cs)

/-- A word that is no flag is the value of the flag that waits for one. -/
theorem step_value (honly : p.onlyArguments = false) (hwaits : p.pending = some ⟨f, read, none⟩)
    (hv : v.toList.head? ≠ some '-') :
    c.step p v = .ok { p with pending := some ⟨f, read, some v⟩ } := by
  rw [step, if_neg (by simp [honly])]
  split
  · rename_i heq
    simp [heq] at hv
  · rename_i heq
    simp [heq] at hv
  · rename_i heq
    simp [heq] at hv
  · simp only [Progress.valueOrWord, hwaits]

/-! ### Names -/

theorem takeWhile_name (hf : c.Finds f read) {rest : List Char}
    (hrest : ∀ m ∈ rest.head?, m = '=') :
    (f.long.toList ++ rest).takeWhile (· ≠ '=') = f.long.toList := by
  refine takeWhile_append_of_stop (fun m hm => ?_) fun m hm => by simp [hrest m hm]
  rw [decide_eq_true_iff]
  rintro rfl
  exact hf.name.2 hm

theorem step_longName (hf : c.Finds f read) (honly : p.onlyArguments = false) :
    c.step p ("--" ++ f.long) = p.flag f := by
  have hw : ("--" ++ f.long).toList = '-' :: '-' :: (f.long.toList ++ []) := by simp
  have hname : (f.long.toList ++ []).takeWhile (· ≠ '=') = f.long.toList :=
    takeWhile_name hf (by simp)
  rw [step_long honly hw (by simpa using hf.name.1)]
  simp only [longWord, hname, String.ofList_toList, hf.long, List.drop_left]

theorem step_longNameWith (hf : c.Finds f read) (honly : p.onlyArguments = false) (v : String) :
    c.step p ("--" ++ f.long ++ "=" ++ v) = p.flagWith f v := by
  have hw : ("--" ++ f.long ++ "=" ++ v).toList =
      '-' :: '-' :: (f.long.toList ++ '=' :: v.toList) := by simp
  have hname : (f.long.toList ++ '=' :: v.toList).takeWhile (· ≠ '=') = f.long.toList :=
    takeWhile_name hf (by simp)
  rw [step_long honly hw (by simp)]
  simp only [longWord, hname, String.ofList_toList, hf.long, List.drop_left]

theorem step_shortName (hf : c.Finds f read) (honly : p.onlyArguments = false) {n : Char}
    (hn : f.short = some n) : c.step p ("-" ++ String.singleton n) = p.flag f := by
  have hw : ("-" ++ String.singleton n).toList = '-' :: n :: [] := by simp
  rw [step_short honly hw (hf.short n hn).1, shortWord, (hf.short n hn).2]
  simp only [hf.effect]

theorem step_shortNameWith (hf : c.Finds f read) (honly : p.onlyArguments = false) {n : Char}
    (hn : f.short = some n) (v : String) :
    c.step p ("-" ++ String.singleton n ++ "=" ++ v) = p.flagWith f v := by
  have hw : ("-" ++ String.singleton n ++ "=" ++ v).toList = '-' :: n :: '=' :: v.toList := by simp
  rw [step_short honly hw (hf.short n hn).1, shortWord, (hf.short n hn).2]
  simp only [hf.effect, String.ofList_toList]

theorem step_joined (hf : c.Finds f read) (honly : p.onlyArguments = false) {n : Char}
    (hn : f.short = some n) (hne : v ≠ "") (hmark : v.toList.head? ≠ some '=') :
    c.step p ("-" ++ String.singleton n ++ v) = p.flagWith f v := by
  have hw : ("-" ++ String.singleton n ++ v).toList = '-' :: n :: v.toList := by simp
  rw [step_short honly hw (hf.short n hn).1, shortWord, (hf.short n hn).2]
  simp only [hf.effect]
  split
  · rename_i heq
    simp [hne] at heq
  · rename_i heq
    simp [heq] at hmark
  · rw [String.ofList_toList]

/-- The value is in the same word as the flag or in the next one. -/
theorem steps_of_spells (hf : c.Finds f read) {words : List String} (hwords : f.Spells v words) :
    ∃ w, (words = [w, v] ∧ ∀ p : Progress σ, p.onlyArguments = false → c.step p w = p.flag f) ∨
      (words = [w] ∧ ∀ p : Progress σ, p.onlyArguments = false → c.step p w = p.flagWith f v) := by
  cases hwords with
  | long => exact ⟨_, .inl ⟨rfl, fun _ honly => step_longName hf honly⟩⟩
  | longWith => exact ⟨_, .inr ⟨rfl, fun _ honly => step_longNameWith hf honly v⟩⟩
  | short hn => exact ⟨_, .inl ⟨rfl, fun _ honly => step_shortName hf honly hn⟩⟩
  | shortWith hn => exact ⟨_, .inr ⟨rfl, fun _ honly => step_shortNameWith hf honly hn v⟩⟩
  | joined hn hne hmark => exact ⟨_, .inr ⟨rfl, fun _ honly => step_joined hf honly hn hne hmark⟩⟩

/-- **The words that give a flag its value** do so, or let the value wait. -/
theorem stands_of_spells (hf : c.Finds f read) (hc : c.Decides f read v P)
    (hv : v.toList.head? ≠ some '-') {words : List String} (hwords : f.Spells v words)
    (hp : p.Belongs c) (h : words.foldlM c.step p = .ok p') : p'.Stands f read v P := by
  have honly : ∀ {q q' : Progress σ} {w : String}, q.Belongs c → c.step q w = .ok q' →
      q.onlyArguments = false := fun hq hstep => onlyArguments_of_step hc.arguments hq hstep
  obtain ⟨w, ⟨rfl, hw⟩ | ⟨rfl, hw⟩⟩ := steps_of_spells hf hwords
  · rw [List.foldlM_cons] at h
    obtain ⟨p₁, hflag, h⟩ := bind_eq_ok.1 h
    rw [List.foldlM_cons] at h
    obtain ⟨p₂, hvalue, h⟩ := bind_eq_ok.1 h
    cases h
    have honly₁ := honly ((moves_step hp hflag).belongs hp) hvalue
    rw [hw p (honly hp hflag)] at hflag
    rw [step_value honly₁ (pending_flag hf hflag) hv] at hvalue
    cases hvalue
    exact .inl rfl
  · rw [List.foldlM_cons] at h
    obtain ⟨p₁, hflag, h⟩ := bind_eq_ok.1 h
    cases h
    rw [hw p (honly hp hflag)] at hflag
    exact .inr (isSet_flagWith hf hc hflag)

/-! ### Lines -/

/-- **A flag that is given** decides what it stands for, whatever else is in the line. -/
theorem parse_given (hf : c.Finds f read) (hc : c.Decides f read v P)
    (hv : v.toList.head? ≠ some '-') {before words after : List String}
    (hwords : f.Spells v words) {env : KeyedMap String} {dflt o : σ}
    (h : c.parse env dflt (before ++ words ++ after) = .ok o) : P o := by
  obtain ⟨p₃, p₄, p₅, hline, hresolve, hfill, rfl⟩ := parts_of_parse h
  rw [List.foldlM_append, List.foldlM_append] at hline
  obtain ⟨p₂, hfront, hafter⟩ := bind_eq_ok.1 hline
  obtain ⟨p₁, hbefore, hgiven⟩ := bind_eq_ok.1 hfront
  have hbelongs₁ := (moves_words (c.belongs_start dflt) hbefore).belongs (c.belongs_start dflt)
  have hbelongs₂ := (moves_words hbelongs₁ hgiven).belongs hbelongs₁
  have hbelongs₃ := (moves_words hbelongs₂ hafter).belongs hbelongs₂
  have hstands₂ := stands_of_spells hf hc hv hwords hbelongs₁ hgiven
  have hstands₃ := Moves.stands hc (moves_words hbelongs₂ hafter) hstands₂
  obtain ⟨hmoves, hnone, -⟩ := Progress.moves_resolve hbelongs₃ hresolve
  have hset₄ : p₄.IsSet f P := by
    rcases Moves.stands hc hmoves hstands₃ with hwaits | hset
    · simp [hnone] at hwaits
    · exact hset
  exact (Moves.isSet hc (moves_fills hfill) hset₄).2

end CommandLine

end AlertRelay
