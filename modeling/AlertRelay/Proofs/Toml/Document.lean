/-
AlertRelay/Proofs/Toml/Document.lean

A document of sections, read back as it was written.

Every line of such a document is a header, an entry or blank.  A line changes the draft of the
reader in one place: a header opens a table at the end of the document, and an entry adds a value at
the end of that table (`open_append`, `add_append`).  So the induction is on the lines that are
left, and the draft holds what stands before them (`Completes.entries`, `Completes.sections`).  The
names of the sections and the keys of a section have to differ, since nothing can be written twice.

The reader counts its lines down from the number of characters, of which every line has at least
one.
-/
import AlertRelay.Proofs.Toml.Number
import AlertRelay.Proofs.Toml.Text
import AlertRelay.Toml.Reader
import Mathlib.Data.List.Nodup

namespace AlertRelay

namespace Toml

/-! ### Keys -/

/-- A text that can be a key without quotes. -/
def IsKey (k : String) : Prop :=
  k ≠ "" ∧ ∀ c ∈ k.toList, isKeyChar c = true

instance (k : String) : Decidable (IsKey k) :=
  @instDecidableAnd _ _ inferInstance (List.decidableBAll _ k.toList)

theorem IsKey.exists_cons {k : String} (h : IsKey k) :
    ∃ c cs, k.toList = c :: cs ∧ isKeyChar c = true := by
  obtain ⟨hne, hchars⟩ := h
  cases hk : k.toList with
  | nil => exact absurd (String.toList_eq_nil_iff.1 hk) hne
  | cons c cs => exact ⟨c, cs, rfl, hchars c (hk ▸ List.mem_cons_self)⟩

theorem skipSpace_cons {c : Char} (hspace : c ≠ ' ') (htab : c ≠ '\t') (rest : List Char) :
    skipSpace (c :: rest) = c :: rest := by
  rw [skipSpace]
  all_goals simp [hspace, htab]

/-- A key ends where something else begins. -/
theorem keyPart_append {k : String} (hk : IsKey k) {c : Char} (hc : isKeyChar c = false)
    (rest : List Char) : keyPart (k.toList ++ c :: rest) = some (k, c :: rest) := by
  obtain ⟨d, ds, hd, hkey⟩ := hk.exists_cons
  have htake : (k.toList ++ c :: rest).takeWhile isKeyChar = k.toList := by
    rw [List.takeWhile_append_of_pos hk.2, List.takeWhile_cons_of_neg (by simp [hc]),
      List.append_nil]
  have hdrop : (k.toList ++ c :: rest).dropWhile isKeyChar = c :: rest := by
    rw [List.dropWhile_append_of_pos hk.2, List.dropWhile_cons_of_neg (by simp [hc])]
  have hquote := ne_of_test hkey (d := '"') rfl
  have hsingle := ne_of_test hkey (d := '\'') rfl
  rw [keyPart, htake, hdrop]
  · rw [hd]
    simp only [← hd, String.ofList_toList]
  all_goals
    intro s hs
    rw [hd] at hs
    simp_all

/-- **A key** of one part. -/
theorem key_append {k : String} (hk : IsKey k) {c : Char} (hc : isKeyChar c = false)
    {rest : List Char} (hdot : '.' ∉ (skipSpace (c :: rest)).head?) (parts : Nat) :
    key (parts + 1) (k.toList ++ c :: rest) = some ([k], skipSpace (c :: rest)) := by
  obtain ⟨d, ds, hd, hkey⟩ := hk.exists_cons
  have hskip : skipSpace (k.toList ++ c :: rest) = k.toList ++ c :: rest := by
    rw [hd]
    exact skipSpace_cons (ne_of_test hkey rfl) (ne_of_test hkey rfl) _
  simp only [key, hskip, keyPart_append hk hc, Option.bind_eq_bind, Option.bind_some]
  split
  · rename_i s hs
    rw [hs] at hdot
    simp at hdot
  · rfl

/-! ### Values -/

/-- The values that a document can hold. -/
def Scalar.Fits : Scalar → Prop
  | .integer n => leastInteger ≤ n ∧ n ≤ greatestInteger
  | _ => True

/-- Whether a character begins a text. -/
def beginsText (c : Char) : Bool :=
  c = '"' || c = '\''

/-- Whether a character begins a whole number. -/
def beginsNumber (c : Char) : Bool :=
  c = '-' || isDigit c

theorem exists_text_cons (cs : List Char) :
    ∃ c s, textChars cs = c :: s ∧ beginsText c = true := by
  simp only [textChars]
  cases styleOf cs with
  | basic => exact ⟨_, _, rfl, rfl⟩
  | literal => exact ⟨_, _, rfl, rfl⟩
  | basicLines => exact ⟨_, _, rfl, rfl⟩
  | literalLines => exact ⟨_, _, rfl, rfl⟩

theorem exists_number_cons (n : Int) :
    ∃ c s, (toString n).toList = c :: s ∧ beginsNumber c = true := by
  obtain ⟨c, s, hs, hc, -⟩ := exists_digit_cons n.natAbs
  rw [toList_toString, hs]
  split
  · exact ⟨'-', _, rfl, rfl⟩
  · exact ⟨c, s, rfl, by simp [beginsNumber, hc]⟩

/-- No value begins with a space. -/
theorem skipSpace_chars (v : Scalar) (rest : List Char) :
    skipSpace (v.chars ++ rest) = v.chars ++ rest := by
  cases v with
  | text s =>
    obtain ⟨c, cs, hcs, hc⟩ := exists_text_cons s.toList
    rw [Scalar.chars, hcs]
    exact skipSpace_cons (ne_of_test hc rfl) (ne_of_test hc rfl) _
  | integer n =>
    obtain ⟨c, cs, hcs, hc⟩ := exists_number_cons n
    rw [Scalar.chars, hcs]
    exact skipSpace_cons (ne_of_test hc rfl) (ne_of_test hc rfl) _
  | bool b => cases b <;> rfl

/-- **A value** at the end of a line is read back. -/
theorem readValue_chars {v : Scalar} (hv : v.Fits) (depth : Nat) (rest : List Char) :
    readValue (depth + 1) (v.chars ++ '\n' :: rest) = some (v.toml, '\n' :: rest) := by
  -- which reader is taken shows at the first character
  cases v with
  | text s =>
    have hread := readText_textChars s.toList rest
    obtain ⟨c, cs, hcs, hc⟩ := exists_text_cons s.toList
    rw [Scalar.chars]
    rw [hcs] at hread ⊢
    rw [List.cons_append, readValue, ← List.cons_append, hread]
    · simp [Scalar.toml]
    all_goals exact fun t ht => ne_of_test hc rfl (List.cons.inj ht).1
  | integer n =>
    have hread := readNumber_toString hv.1 hv.2 rest
    obtain ⟨c, cs, hcs, hc⟩ := exists_number_cons n
    rw [Scalar.chars]
    rw [hcs] at hread ⊢
    -- a number is tried only where no text begins
    have htext : readText (c :: cs ++ '\n' :: rest) = none := by
      rw [List.cons_append, readText]
      all_goals exact fun t ht => ne_of_test hc rfl (List.cons.inj ht).1
    rw [List.cons_append, readValue, ← List.cons_append, htext, hread]
    · rfl
    all_goals exact fun t ht => ne_of_test hc rfl (List.cons.inj ht).1
  | bool b => cases b <;> rfl

/-- **An entry** is read back. -/
theorem keyValue_entry {k : String} (hk : IsKey k) {v : Scalar} (hv : v.Fits) (rest : List Char) :
    keyValue (readValue depthLimit) (k.toList ++ ' ' :: '=' :: ' ' :: (v.chars ++ '\n' :: rest)) =
      some ([], k, v.toml, '\n' :: rest) := by
  have hkey : key (depthLimit - 1) (k.toList ++ ' ' :: '=' :: ' ' :: (v.chars ++ '\n' :: rest)) =
      some ([k], '=' :: ' ' :: (v.chars ++ '\n' :: rest)) :=
    key_append hk (c := ' ') rfl (by simp [skipSpace]) (depthLimit - 2)
  have hskip : skipSpace (' ' :: (v.chars ++ '\n' :: rest)) = v.chars ++ '\n' :: rest :=
    skipSpace_chars v _
  have hread : readValue depthLimit (v.chars ++ '\n' :: rest) = some (v.toml, '\n' :: rest) :=
    readValue_chars hv (depthLimit - 1) rest
  simp [keyValue, hkey, splitKey, after, hskip, hread]

/-! ### Growing -/

variable {before sub : Entries} {name k : String}

theorem lookup_eq_none (h : name ∉ before.map Prod.fst) : before.lookup name = none := by
  rw [List.lookup_eq_none_iff]
  intro e he
  simp only [bne_iff_ne, ne_eq]
  rintro rfl
  exact h (List.mem_map_of_mem he)

theorem lookup_append_self {w : Toml} (h : name ∉ before.map Prod.fst) :
    (before ++ [(name, w)]).lookup name = some w := by
  rw [List.lookup_append, lookup_eq_none h]
  simp

theorem setEntry_append_self {v w : Toml} (h : name ∉ before.map Prod.fst) :
    setEntry name v (before ++ [(name, w)]) = before ++ [(name, v)] := by
  induction before with
  | nil => simp [setEntry]
  | cons e before ih =>
    rw [List.map_cons, List.mem_cons, not_or] at h
    rw [List.cons_append, setEntry, if_neg (Ne.symm h.1), ih h.2, List.cons_append]

/-- A header opens a table behind all others. -/
theorem open_append (h : name ∉ before.map Prod.fst) (header : List String) :
    Draft.open ⟨header, before⟩ openTable [name] =
      some ⟨[name], before ++ [(name, .table .header [])]⟩ := by
  simp [Draft.open, splitKey, within, openTable, lookup_eq_none h]

/-- An entry adds its value behind all others of the table. -/
theorem add_append (h : name ∉ before.map Prod.fst) (hk : k ∉ sub.map Prod.fst) (v : Toml) :
    Draft.add ⟨[name], before ++ [(name, .table .header sub)]⟩ [] k v =
      some ⟨[name], before ++ [(name, .table .header (sub ++ [(k, v)]))]⟩ := by
  simp [Draft.add, within, lookup_append_self h, canEnter, addDotted, addValue, lookup_eq_none hk,
    setEntry_append_self h]

/-! ### Lines -/

/-- The entry of a table. -/
def Scalar.entry (e : String × Scalar) : String × Toml :=
  (e.1, e.2.toml)

/-- The table of a section, under its name. -/
def Section.toml (s : Section) : String × Toml :=
  (s.name, .table .header (s.entries.map Scalar.entry))

/-- A section that can be written. -/
structure Section.IsPlain (s : Section) : Prop where
  name : IsKey s.name
  keys : ∀ e ∈ s.entries, IsKey e.1
  nodup : (s.entries.map Prod.fst).Nodup
  fits : ∀ e ∈ s.entries, e.2.Fits

theorem documentChars_cons (s : Section) (ss : List Section) :
    documentChars (s :: ss) =
      s.chars ++ if ss = [] then [] else '\n' :: documentChars ss := by
  cases ss with
  | nil => simp [documentChars]
  | cons t ss => simp [documentChars, List.intercalate]

/-- The reader gets from a draft over some lines to the end of a document. -/
def Completes (d : Draft) (s : List Char) (root : Entries) : Prop :=
  ∀ fuel, s.length < fuel → lines fuel d s = some root

namespace Completes

variable {d d' : Draft} {s rest : List Char} {root : Entries}

theorem nil (d : Draft) : Completes d [] d.root := by
  intro fuel hfuel
  obtain ⟨fuel, rfl⟩ := Nat.exists_eq_succ_of_ne_zero (Nat.ne_of_gt hfuel)
  rfl

theorem blank (h : Completes d rest root) : Completes d ('\n' :: rest) root := by
  intro fuel hfuel
  obtain ⟨fuel, rfl⟩ := Nat.exists_eq_succ_of_ne_zero (Nat.ne_zero_of_lt hfuel)
  exact h fuel (Nat.lt_of_succ_lt_succ hfuel)

/-- **One line** that is not blank. -/
theorem line {c : Char} (hspace : c ≠ ' ') (htab : c ≠ '\t') (hblank : isBlankLine (c :: s) = false)
    (hline : Toml.line d (c :: s) = some (d', '\n' :: rest)) (hrest : rest.length ≤ s.length)
    (h : Completes d' rest root) : Completes d (c :: s) root := by
  intro fuel hfuel
  obtain ⟨fuel, rfl⟩ := Nat.exists_eq_succ_of_ne_zero (Nat.ne_zero_of_lt hfuel)
  have hlater := h fuel (Nat.lt_of_le_of_lt hrest (Nat.lt_of_succ_lt_succ hfuel))
  simp [lines, skipSpace_cons hspace htab, hblank, hline, lineEnd, hlater]

/-- **A header** opens a table. -/
theorem header {name : String} (hname : IsKey name) (hnew : name ∉ d.root.map Prod.fst)
    (h : Completes ⟨[name], d.root ++ [(name, .table .header [])]⟩ rest root) :
    Completes d ('[' :: (name.toList ++ ']' :: '\n' :: rest)) root := by
  have hkey : key (depthLimit - 1) (name.toList ++ ']' :: '\n' :: rest) =
      some ([name], ']' :: '\n' :: rest) :=
    key_append hname (c := ']') rfl (by simp [skipSpace]) (depthLimit - 2)
  refine Completes.line (by decide) (by decide) rfl ?_ ?_ h
  · obtain ⟨c, cs, hcs, hc⟩ := hname.exists_cons
    have hbracket := ne_of_test hc (d := '[') rfl
    have hopen := open_append hnew d.header
    rw [Toml.line]
    · simp [hkey, after, hopen]
    · intro t ht
      rw [hcs] at ht
      simp [hbracket] at ht
  · simp
    omega

/-- **An entry** adds its value. -/
theorem entry {e : String × Scalar} (hkey : IsKey e.1) (hfits : e.2.Fits)
    (hname : name ∉ before.map Prod.fst) (hnew : e.1 ∉ sub.map Prod.fst)
    (h : Completes ⟨[name], before ++ [(name, .table .header (sub ++ [(e.1, e.2.toml)]))]⟩
      rest root) :
    Completes ⟨[name], before ++ [(name, .table .header sub)]⟩ (entryChars e ++ rest) root := by
  obtain ⟨c, cs, hcs, hc⟩ := hkey.exists_cons
  have hread := keyValue_entry hkey hfits rest
  have hchars : entryChars e ++ rest =
      c :: (cs ++ ' ' :: '=' :: ' ' :: (e.2.chars ++ '\n' :: rest)) := by
    simp [entryChars, hcs]
  rw [hcs, List.cons_append] at hread
  rw [hchars]
  have hblank : isBlankLine (c :: (cs ++ ' ' :: '=' :: ' ' :: (e.2.chars ++ '\n' :: rest))) =
      false := by
    rw [isBlankLine]
    all_goals exact fun t ht => ne_of_test hc rfl (List.cons.inj ht).1
  refine Completes.line (ne_of_test hc rfl) (ne_of_test hc rfl) hblank ?_ ?_ h
  · rw [Toml.line]
    · simp [hread, add_append hname hnew]
    all_goals exact fun t ht => ne_of_test hc rfl (List.cons.inj ht).1
  · simp
    omega

/-- **The entries** of a section. -/
theorem entries {es : List (String × Scalar)} (hkeys : ∀ e ∈ es, IsKey e.1)
    (hfits : ∀ e ∈ es, e.2.Fits) (hname : name ∉ before.map Prod.fst)
    (hnew : (sub.map Prod.fst ++ es.map Prod.fst).Nodup)
    (h : Completes ⟨[name], before ++ [(name, .table .header (sub ++ es.map Scalar.entry))]⟩
      rest root) :
    Completes ⟨[name], before ++ [(name, .table .header sub)]⟩ (es.flatMap entryChars ++ rest)
      root := by
  -- the entries that have been read go from the lines into the table
  induction es generalizing sub with
  | nil => simpa using h
  | cons e es ih =>
    obtain ⟨hkey, hkeys⟩ := List.forall_mem_cons.1 hkeys
    obtain ⟨hfit, hfits⟩ := List.forall_mem_cons.1 hfits
    have hfresh : e.1 ∉ sub.map Prod.fst := by
      rw [List.map_cons, List.nodup_middle, List.nodup_cons] at hnew
      intro he
      exact hnew.1 (List.mem_append_left _ he)
    rw [List.flatMap_cons, List.append_assoc]
    apply entry hkey hfit hname hfresh
    apply ih hkeys hfits
    · simpa using hnew
    · simpa [Scalar.entry] using h

/-- **The sections** of a document. -/
theorem sections {ss : List Section} (hplain : ∀ s ∈ ss, s.IsPlain)
    (hnew : (d.root.map Prod.fst ++ ss.map Section.name).Nodup) :
    Completes d (documentChars ss) (d.root ++ ss.map Section.toml) := by
  induction ss generalizing d with
  | nil => simpa [documentChars, List.intercalate] using nil d
  | cons s ss ih =>
    obtain ⟨hs, hplain⟩ := List.forall_mem_cons.1 hplain
    have hfresh : s.name ∉ d.root.map Prod.fst := by
      rw [List.map_cons, List.nodup_middle, List.nodup_cons] at hnew
      intro he
      exact hnew.1 (List.mem_append_left _ he)
    have hlater := ih (d := ⟨[s.name], d.root ++ [s.toml]⟩) hplain
      (by simpa [Section.toml] using hnew)
    simp only [List.append_assoc, List.singleton_append] at hlater
    -- a blank line stands before every section but the first
    have htail : Completes ⟨[s.name], d.root ++ [s.toml]⟩
        (if ss = [] then [] else '\n' :: documentChars ss)
        (d.root ++ (s :: ss).map Section.toml) := by
      cases ss with
      | nil => exact hlater
      | cons t ss => exact hlater.blank
    have hkeys : (([] : Entries).map Prod.fst ++ s.entries.map Prod.fst).Nodup := hs.nodup
    rw [documentChars_cons, Section.chars]
    simp only [List.cons_append, List.append_assoc, List.nil_append]
    apply header hs.name hfresh
    exact entries hs.keys hs.fits hfresh hkeys htail

end Completes

/-- **A document** of sections with different names is read back. -/
theorem parse?_write {ss : List Section} (hplain : ∀ s ∈ ss, s.IsPlain)
    (hnodup : (ss.map Section.name).Nodup) :
    parse? (write ss) = some (ss.map Section.toml) := by
  have hread := Completes.sections (d := {}) hplain (by simpa using hnodup)
  have hmark : dropMark (documentChars ss) = documentChars ss := by
    cases ss with
    | nil => rfl
    | cons s ss => rw [documentChars_cons]; rfl
  simp only [parse?, write, String.toList_ofList, hmark]
  exact hread _ (Nat.lt_succ_self _)

end Toml

end AlertRelay
