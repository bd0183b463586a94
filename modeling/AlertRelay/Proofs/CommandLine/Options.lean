/-
AlertRelay/Proofs/CommandLine/Options.lean

What holds of options, whatever was typed.

Few things are done while a command line is read (`Move`), and only those that set a flag or take an
argument change the options.  When a flag is set is another matter, for its value is looked at late
and so the flag that waits is part of what has been read.  Whatever the words are, reading them
comes to such moves (`moves_step`, `parts_of_parse`).

So what holds of the options at first, and is kept by every flag and every argument, holds at each
moment between the words and of what comes out (`parse_keeps`).
-/
import AlertRelay.CommandLine.Value
import AlertRelay.Proofs.Faults
import Mathlib.Logic.Relation

namespace AlertRelay

variable {σ : Type} {P : σ → Prop}

/-- A flag that keeps something true of the options. -/
def FlagEffect.Keeps (P : σ → Prop) : FlagEffect σ → Prop
  | .switch set => ∀ o, P o → P (set o)
  | .value read => ∀ s set, read s = .ok set → ∀ o, P o → P (set o)
  | .question _ => True

/-! ### Values -/

namespace Flag

theorem text_keeps {set : String → σ → σ} (hset : ∀ s o, P o → P (set s o)) :
    (text set).Keeps P := by
  rintro s _ ⟨⟩ o ho
  exact hset s o ho

/-- A path that is set is not empty. -/
theorem path_keeps {set : String → σ → σ} (hset : ∀ s o, s ≠ "" → P o → P (set s o)) :
    (path set).Keeps P := by
  intro s set' hread o ho
  dsimp only at hread
  split at hread
  · cases hread
  · rename_i hne
    cases hread
    exact hset s o hne ho

theorem number_keeps {least greatest : Int} {set : Int → σ → σ}
    (hset : ∀ n o, P o → P (set n o)) : (number least greatest set).Keeps P := by
  intro s set' hread o ho
  dsimp only at hread
  split at hread
  · cases hread
    exact hset _ o ho
  · cases hread

/-- A span that is set has been read from a text. -/
theorem duration_keeps {set : Duration → σ → σ}
    (hset : ∀ s d o, readDuration s = .ok d → P o → P (set d o)) : (duration set).Keeps P := by
  intro s set' hread o ho
  dsimp only at hread
  split at hread
  · rename_i d hd
    cases hread
    exact hset s d o hd ho
  all_goals cases hread

end Flag

/-! ### Moves -/

namespace CommandLine

/-- A command line whose flags and arguments keep something true of the options. -/
structure Keeps (P : σ → Prop) (c : CommandLine σ) : Prop where
  flags : ∀ f ∈ c.flags, f.effect.Keeps P
  arguments : ∀ set ∈ c.arguments, ∀ w o, P o → P (set w o)

/-- What is done while a command line is read. -/
inductive Move (c : CommandLine σ) (p : Progress σ) : Progress σ → Prop where
  /-- A flag waits for its value, and no other one does. -/
  | awaits {f : Flag σ} {read} (hflag : f ∈ c.flags) (heffect : f.effect = .value read)
      (hfree : p.pending = none) : Move c p { p with pending := some ⟨f, read, none⟩ }
  /-- The flag that waits gets its value. -/
  | receives {f : Flag σ} {read} (v : String) (hwaits : p.pending = some ⟨f, read, none⟩) :
      Move c p { p with pending := some ⟨f, read, some v⟩ }
  /-- The value of the flag that waits is looked at. -/
  | settles {f : Flag σ} {read v set} (hflag : f ∈ c.flags) (heffect : f.effect = .value read)
      (hwaits : p.pending = some ⟨f, read, some v⟩) (hnew : f.long ∉ p.given)
      (hset : read v = .ok set) :
      Move c p { p with pending := none, given := f.long :: p.given, options := set p.options }
  /-- A value is looked at that is in one word with its flag. -/
  | sets {f : Flag σ} {read v set} (hflag : f ∈ c.flags) (heffect : f.effect = .value read)
      (hnew : f.long ∉ p.given) (hset : read v = .ok set) :
      Move c p { p with given := f.long :: p.given, options := set p.options }
  | switches {f : Flag σ} {set} (hflag : f ∈ c.flags) (heffect : f.effect = .switch set)
      (hnew : f.long ∉ p.given) :
      Move c p { p with given := f.long :: p.given, options := set p.options }
  | argues {set missing} (w : String) (hset : set ∈ c.arguments)
      (hmissing : p.missing = set :: missing) :
      Move c p { p with options := set w p.options, missing := missing }
  /-- No word is a flag any more. -/
  | closes : Move c p { p with onlyArguments := true }

/-- What comes of nothing, of one move or of several ones. -/
abbrev Moves (c : CommandLine σ) : Progress σ → Progress σ → Prop :=
  Relation.ReflTransGen c.Move

/-- The flag that waits is one of the command line, and so are the arguments that are missing. -/
structure Progress.Belongs (c : CommandLine σ) (p : Progress σ) : Prop where
  pending : ∀ w, p.pending = some w → w.flag ∈ c.flags ∧ w.flag.effect = .value w.read
  missing : ∀ set ∈ p.missing, set ∈ c.arguments

variable {c : CommandLine σ} {p p' : Progress σ} {f : Flag σ}

theorem Move.belongs (h : c.Move p p') (hp : p.Belongs c) : p'.Belongs c := by
  cases h with
  | awaits hflag heffect =>
    refine ⟨?_, hp.missing⟩
    rintro w ⟨⟩
    exact ⟨hflag, heffect⟩
  | receives v hwaits =>
    have hknown := hp.pending _ hwaits
    refine ⟨?_, hp.missing⟩
    rintro w ⟨⟩
    exact hknown
  | settles => exact ⟨nofun, hp.missing⟩
  | sets => exact ⟨hp.pending, hp.missing⟩
  | switches => exact ⟨hp.pending, hp.missing⟩
  | argues w _ hmissing =>
    refine ⟨hp.pending, fun set hset => hp.missing set ?_⟩
    rw [hmissing]
    exact List.mem_cons_of_mem _ hset
  | closes => exact ⟨hp.pending, hp.missing⟩

theorem Moves.belongs (h : c.Moves p p') (hp : p.Belongs c) : p'.Belongs c := by
  induction h with
  | refl => exact hp
  | tail _ hmove ih => exact hmove.belongs ih

/-- **A move** keeps what flags and arguments keep. -/
theorem Move.keeps (hc : c.Keeps P) (h : c.Move p p') (ho : P p.options) : P p'.options := by
  have hvalue : ∀ {f : Flag σ} {read v set}, f ∈ c.flags → f.effect = .value read →
      read v = .ok set → P (set p.options) := by
    intro f read v set hflag heffect hset
    have hkeeps := hc.flags f hflag
    rw [heffect] at hkeeps
    exact hkeeps v set hset _ ho
  cases h with
  | awaits => exact ho
  | receives => exact ho
  | settles hflag heffect _ _ hset => exact hvalue hflag heffect hset
  | sets hflag heffect _ hset => exact hvalue hflag heffect hset
  | switches hflag heffect =>
    have hkeeps := hc.flags _ hflag
    rw [heffect] at hkeeps
    exact hkeeps _ ho
  | argues w hset => exact hc.arguments _ hset w _ ho
  | closes => exact ho

theorem Moves.keeps (hc : c.Keeps P) (h : c.Moves p p') (ho : P p.options) : P p'.options := by
  induction h with
  | refl => exact ho
  | tail _ hmove ih => exact hmove.keeps hc ih

/-! ### Flags -/

namespace Progress

theorem note_eq_ok_iff :
    p.note f = .ok p' ↔ f.long ∉ p.given ∧ p' = { p with given := f.long :: p.given } := by
  by_cases hgiven : f.long ∈ p.given
  · simp [note, hgiven]
  · simp [note, hgiven, eq_comm]

theorem assign_eq_ok_iff {read : String → Except UsageFault (σ → σ)} {v : String} :
    p.assign f read v = .ok p' ↔ f.long ∉ p.given ∧ ∃ set, read v = .ok set ∧
      p' = { p with given := f.long :: p.given, options := set p.options } := by
  simp only [assign, bind_eq_ok, note_eq_ok_iff]
  constructor
  · rintro ⟨p₁, ⟨hnew, rfl⟩, set, hset, h⟩
    cases h
    exact ⟨hnew, set, hset, rfl⟩
  · rintro ⟨hnew, set, hset, rfl⟩
    exact ⟨_, ⟨hnew, rfl⟩, set, hset, rfl⟩

/-- After a look at the flag that waits, none does. -/
theorem moves_resolve (hp : p.Belongs c) (h : p.resolve = .ok p') :
    c.Moves p p' ∧ p'.pending = none ∧ p'.missing = p.missing := by
  unfold resolve at h
  split at h
  · rename_i hnone
    cases h
    exact ⟨.refl, hnone, rfl⟩
  · rename_i w hw
    split at h
    · cases h
    · rename_i v hv
      obtain ⟨hnew, set, hset, rfl⟩ := assign_eq_ok_iff.1 h
      obtain ⟨hflag, heffect⟩ := hp.pending w hw
      have hwaits : p.pending = some ⟨w.flag, w.read, some v⟩ := by rw [hw, ← hv]
      exact ⟨.single (.settles hflag heffect hwaits hnew hset), rfl, rfl⟩

end Progress

/-- A flag that is found and asks no question is one of the command line. -/
theorem mem_flags_of_find? {test : Flag σ → Bool} (hf : (c.flags ++ questions).find? test = some f)
    (hasks : ∀ asked, f.effect ≠ .question asked) : f ∈ c.flags := by
  rcases List.mem_append.1 (List.mem_of_find?_eq_some hf) with hmem | hmem
  · exact hmem
  · simp only [questions, List.mem_cons, List.not_mem_nil, or_false] at hmem
    rcases hmem with rfl | rfl
    · exact absurd rfl (hasks .displayHelp)
    · exact absurd rfl (hasks .displayVersion)

theorem moves_flag {test : Flag σ → Bool} (hf : (c.flags ++ questions).find? test = some f)
    (hp : p.Belongs c) (h : p.flag f = .ok p') : c.Moves p p' := by
  obtain ⟨p₁, hresolve, h⟩ := bind_eq_ok.1 h
  obtain ⟨hmoves, hfree, -⟩ := Progress.moves_resolve hp hresolve
  cases heffect : f.effect with
  | question asked =>
    simp only [heffect] at h
    cases h
  | switch set =>
    simp only [heffect] at h
    obtain ⟨p₂, hnote, h⟩ := bind_eq_ok.1 h
    obtain ⟨hnew, rfl⟩ := Progress.note_eq_ok_iff.1 hnote
    cases h
    have hflag := mem_flags_of_find? hf (by simp [heffect])
    exact hmoves.tail (.switches hflag heffect hnew)
  | value read =>
    simp only [heffect] at h
    cases h
    have hflag := mem_flags_of_find? hf (by simp [heffect])
    exact hmoves.tail (.awaits hflag heffect hfree)

theorem moves_flagWith {test : Flag σ → Bool} (hf : (c.flags ++ questions).find? test = some f)
    (hp : p.Belongs c) {v : String} (h : p.flagWith f v = .ok p') : c.Moves p p' := by
  unfold Progress.flagWith at h
  split at h
  · rename_i read heffect
    obtain ⟨p₁, hresolve, h⟩ := bind_eq_ok.1 h
    obtain ⟨hnew, set, hset, rfl⟩ := Progress.assign_eq_ok_iff.1 h
    have hflag := mem_flags_of_find? hf (by simp [heffect])
    exact (Progress.moves_resolve hp hresolve).1.tail (.sets hflag heffect hnew hset)
  · cases h

/-! ### Words -/

theorem moves_word (hp : p.Belongs c) {w : String} (h : p.word w = .ok p') : c.Moves p p' := by
  unfold Progress.word at h
  split at h
  · cases h
  · rename_i set missing hmissing
    obtain ⟨p₁, hresolve, h⟩ := bind_eq_ok.1 h
    obtain ⟨hmoves, -, hsame⟩ := Progress.moves_resolve hp hresolve
    have hset : set ∈ c.arguments := hp.missing set (by rw [hmissing]; exact List.mem_cons_self)
    cases h
    exact hmoves.tail (.argues w hset (by rw [hsame, hmissing]))

theorem moves_valueOrWord (hp : p.Belongs c) {w : String} (h : p.valueOrWord w = .ok p') :
    c.Moves p p' := by
  unfold Progress.valueOrWord at h
  split at h
  · rename_i f read hwaits
    cases h
    exact .single (.receives w hwaits)
  · exact moves_word hp h

theorem moves_longWord (hp : p.Belongs c) {cs : List Char} (h : c.longWord p cs = .ok p') :
    c.Moves p p' := by
  simp only [longWord] at h
  split at h
  · cases h
  · rename_i f hf
    split at h
    · exact moves_flag hf hp h
    · exact moves_flagWith hf hp h

theorem moves_shortWord {cs : List Char} (hp : p.Belongs c) (h : c.shortWord p cs = .ok p') :
    c.Moves p p' := by
  induction cs generalizing p with
  | nil =>
    cases h
    exact .refl
  | cons n rest ih =>
    unfold shortWord at h
    split at h
    · cases h
    · rename_i f hf
      split at h
      · -- the value of a flag is what is left of the word
        split at h
        · exact moves_flag hf hp h
        · exact moves_flagWith hf hp h
        · exact moves_flagWith hf hp h
      · obtain ⟨p₁, hflag, h⟩ := bind_eq_ok.1 h
        have hmoves := moves_flag hf hp hflag
        exact hmoves.trans (ih (hmoves.belongs hp) h)

/-- **One word** comes to moves. -/
theorem moves_step (hp : p.Belongs c) {w : String} (h : c.step p w = .ok p') : c.Moves p p' := by
  unfold step at h
  split at h
  · exact moves_word hp h
  · split at h
    · cases h
      exact .single .closes
    · exact moves_longWord hp h
    · exact moves_shortWord hp h
    · exact moves_valueOrWord hp h

theorem moves_fill {env : KeyedMap String} (hflag : f ∈ c.flags) (h : fill env p f = .ok p') :
    c.Moves p p' := by
  unfold fill at h
  split at h
  · rename_i read v heffect hv
    split at h
    · cases h
      exact .refl
    · obtain ⟨hnew, set, hset, rfl⟩ := Progress.assign_eq_ok_iff.1 h
      exact .single (.sets hflag heffect hnew hset)
  · cases h
    exact .refl

/-! ### Lines -/

/-- Where every command line starts. -/
theorem belongs_start (c : CommandLine σ) (dflt : σ) :
    Progress.Belongs c { options := dflt, missing := c.arguments } :=
  ⟨nofun, fun _ h => h⟩

theorem moves_words {words : List String} (hp : p.Belongs c) (h : words.foldlM c.step p = .ok p') :
    c.Moves p p' := by
  have hkeep : p'.Belongs c ∧ c.Moves p p' := by
    refine foldlM_keeps (P := fun q => q.Belongs c ∧ c.Moves p q) ?_ ⟨hp, .refl⟩ h
    rintro w - q q' ⟨hq, hmoves⟩ hstep
    have hmore := moves_step hq hstep
    exact ⟨hmore.belongs hq, hmoves.trans hmore⟩
  exact hkeep.2

theorem moves_fills {env : KeyedMap String} (h : c.flags.foldlM (fill env) p = .ok p') :
    c.Moves p p' :=
  foldlM_keeps (P := fun q => c.Moves p q)
    (fun _ hflag _ _ hmoves hfill => hmoves.trans (moves_fill hflag hfill)) .refl h

/-- **What is read of a line** comes in three parts: the words, the flag that waits at their end,
and what stands in for flags. -/
theorem parts_of_parse {env : KeyedMap String} {dflt o : σ} {words : List String}
    (h : c.parse env dflt words = .ok o) : ∃ p₁ p₂ p₃ : Progress σ,
      words.foldlM c.step { options := dflt, missing := c.arguments } = .ok p₁ ∧
      p₁.resolve = .ok p₂ ∧ c.flags.foldlM (fill env) p₂ = .ok p₃ ∧ p₃.options = o := by
  obtain ⟨p₁, hwords, h⟩ := bind_eq_ok.1 h
  obtain ⟨p₂, hresolve, h⟩ := bind_eq_ok.1 h
  obtain ⟨p₃, hfill, h⟩ := bind_eq_ok.1 h
  refine ⟨p₁, p₂, p₃, hwords, hresolve, hfill, ?_⟩
  split at h
  · cases h
    rfl
  · cases h

/-- **What flags and arguments keep** holds of the options that a command line gives. -/
theorem parse_keeps (hc : c.Keeps P) {env : KeyedMap String} {dflt o : σ} (hdflt : P dflt)
    {words : List String} (h : c.parse env dflt words = .ok o) : P o := by
  obtain ⟨p₁, p₂, p₃, hwords, hresolve, hfill, rfl⟩ := parts_of_parse h
  have hmoves₁ := moves_words (c.belongs_start dflt) hwords
  have hmoves₂ := (Progress.moves_resolve (hmoves₁.belongs (c.belongs_start dflt)) hresolve).1
  exact Moves.keeps hc ((hmoves₁.trans hmoves₂).trans (moves_fills hfill)) hdflt

end CommandLine

end AlertRelay
