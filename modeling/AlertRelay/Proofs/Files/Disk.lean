/-
AlertRelay/Proofs/Files/Disk.lean

Files that are written and read.

A way leads over directories, and a file is put where no directory stands.  So no place on the way
to a file is the place of the file, and the same way leads to it afterwards (`walk_put`): what has
been written is what is read (`lookUp_write`).

Directories are made from the end of a path: where one cannot be made because another is missing,
that one is made first.  Along names that lead down, over places without files, this always comes to
an end with all of them there and nothing else changed (`exists_makeDirectoriesFrom`), so that a
file can be written behind them (`writable_of_clear`).
-/
import AlertRelay.Files.Disk
import AlertRelay.Proofs.Faults
import Mathlib.Tactic.SplitIfs

namespace AlertRelay

namespace Disk

variable {d d' : Disk}

/-! ### Entries -/

theorem entry?_put (d : Disk) (place : DiskPlace) (e : DiskEntry) (q : DiskPlace) :
    entry? (d.put place e) q =
      if q ≠ [] ∧ placeKey q = placeKey place then some e else d.entry? q := by
  by_cases hq : q = []
  · simp [hq, entry?]
  · simp [hq, entry?, put, KeyedMap.get?_insert]

theorem entry?_put_self (d : Disk) {place : DiskPlace} (hplace : place ≠ []) (e : DiskEntry) :
    entry? (d.put place e) place = some e := by
  rw [entry?_put, if_pos ⟨hplace, rfl⟩]

/-! ### Ways -/

/-- **A way** stays one as long as directories do. -/
theorem walk_of_directories
    (h : ∀ q, d.entry? q = some .directory → d'.entry? q = some .directory) {names : List String}
    {here place : DiskPlace} (hwalk : d.walk here names = .ok place) :
    d'.walk here names = .ok place := by
  -- only a name with others behind it looks at the disk, and it asks for a directory
  induction names generalizing here with
  | nil => exact hwalk
  | cons n rest ih =>
    unfold walk at hwalk ⊢
    split_ifs at hwalk ⊢
    · exact ih hwalk
    · exact ih hwalk
    · cases rest with
      | nil => exact hwalk
      | cons m rest =>
        cases hentry : d.entry? (here ++ [n]) with
        | none => simp [hentry] at hwalk
        | some e =>
          cases e with
          | file content => simp [hentry] at hwalk
          | directory =>
            simp only [hentry] at hwalk
            simp only [h _ hentry]
            exact ih hwalk

/-- A file is no obstacle on the way to it. -/
theorem walk_put {names : List String} {here place : DiskPlace}
    (hwalk : d.walk here names = .ok place) (hplace : d.entry? place ≠ some .directory)
    (e : DiskEntry) : (d.put place e).walk here names = .ok place := by
  apply walk_of_directories _ hwalk
  intro q hq
  rw [entry?_put]
  split_ifs with hsame
  · -- a directory under the key of the place would stand at the place
    obtain ⟨hne, hkey⟩ := hsame
    refine absurd ?_ hplace
    unfold entry? at hq ⊢
    split_ifs with htop
    · rfl
    · rwa [if_neg hne, hkey] at hq
  · exact hq

/-! ### Files -/

/-- **A write** puts a file where no directory stands. -/
theorem write_eq_ok_iff {path : String} {content : Bytes} :
    d.write path content = .ok d' ↔ Path.endsInSlash path = false ∧
      ∃ place, d.walk (d.startOf path) (Path.names path) = .ok place ∧
        d.entry? place ≠ some .directory ∧ d' = d.put place (.file content) := by
  constructor
  · intro h
    obtain ⟨place, hwalk, h⟩ := bind_eq_ok.1 h
    split at h
    · cases h
    · rename_i hend
      refine ⟨eq_false_of_ne_true hend, place, hwalk, ?_⟩
      split at h
      · cases h
      · rename_i hplace
        exact ⟨hplace, (Except.ok.inj h).symm⟩
  · rintro ⟨hend, place, hwalk, hplace, rfl⟩
    refine bind_eq_ok.2 ⟨place, hwalk, ?_⟩
    rw [if_neg (by rw [hend]; decide)]
    split
    · rename_i hdirectory
      exact absurd hdirectory hplace
    · rfl

/-- **What is written** is found. -/
theorem lookUp_write {path : String} (hpath : path ≠ "") {content : Bytes}
    (h : d.write path content = .ok d') : d'.lookUp path = .ok (.file content) := by
  obtain ⟨hend, place, hwalk, hplace, rfl⟩ := write_eq_ok_iff.1 h
  have hway : wayOf path = Path.names path := by simp [wayOf, hend]
  have hne : place ≠ [] := by
    rintro rfl
    exact hplace rfl
  have hfound := d.entry?_put_self hne (.file content)
  have hsame : (d.put place (.file content)).walk (d.startOf path) (Path.names path) = .ok place :=
    walk_put hwalk hplace _
  have hstart : (d.put place (.file content)).startOf path = d.startOf path := rfl
  simp only [lookUp, if_neg hpath, hway, hstart, hsame]
  exact bind_eq_ok.2 ⟨place, rfl, by rw [hfound]⟩

/-- A path at which a file can be written: the directories it lies in can be made, and then it
leads to a place where no directory stands. -/
def Writable (d : Disk) (path : String) : Prop :=
  Path.endsInSlash path = false ∧ ∃ d' place, d.makeParents path = .ok d' ∧
    d'.walk (d'.startOf path) (Path.names path) = .ok place ∧ d'.entry? place ≠ some .directory

theorem Writable.exists_write {path : String} (h : d.Writable path) (content : Bytes) :
    ∃ d₁ d₂, d.makeParents path = .ok d₁ ∧ d₁.write path content = .ok d₂ := by
  obtain ⟨hend, d₁, place, hparents, hwalk, hplace⟩ := h
  exact ⟨d₁, _, hparents, write_eq_ok_iff.2 ⟨hend, place, hwalk, hplace, rfl⟩⟩

theorem has_of_lookUp {path : String} {e : DiskEntry} (h : d.lookUp path = .ok e) :
    d.has path = true := by
  rw [has, h]
  rfl

theorem readText_of_lookUp {path text : String} (h : d.lookUp path = .ok (.file (utf8 text))) :
    d.readText path = .ok text := by
  have hread : d.read path = .ok (utf8 text) := bind_eq_ok.2 ⟨_, h, rfl⟩
  exact bind_eq_ok.2 ⟨_, hread, by rw [ofUtf8?_utf8]⟩

/-! ### Directories -/

/-- Names that lead down only. -/
def IsDown (names : List String) : Prop :=
  ∀ n ∈ names, n ≠ "." ∧ n ≠ ".."

instance (names : List String) : Decidable (IsDown names) :=
  List.decidableBAll _ names

/-- Directories stand all along some names. -/
def Reaches (d : Disk) (here : DiskPlace) (names : List String) : Prop :=
  ∀ p, p <+: names → p ≠ [] → d.entry? (here ++ p) = some .directory

/-- No file stands along some names. -/
def Clear (d : Disk) (here : DiskPlace) (names : List String) : Prop :=
  ∀ p, p <+: names → p ≠ [] → ∀ content, d.entry? (here ++ p) ≠ some (.file content)

variable {here : DiskPlace} {ns names : List String} {n : String}

theorem reaches_concat : d.Reaches here (ns ++ [n]) ↔
    d.Reaches here ns ∧ d.entry? (here ++ (ns ++ [n])) = some .directory := by
  constructor
  · intro h
    constructor
    · intro p hp hne
      exact h p (hp.trans (List.prefix_append ns [n])) hne
    · exact h _ List.prefix_rfl (by simp)
  · rintro ⟨h, hlast⟩ p hp hne
    obtain rfl | hp := List.prefix_concat_iff.1 hp
    · exact hlast
    · exact h p hp hne

theorem reaches_cons {m : String} : d.Reaches here (m :: ns) ↔
    d.entry? (here ++ [m]) = some .directory ∧ d.Reaches (here ++ [m]) ns := by
  constructor
  · intro h
    constructor
    · exact h [m] ⟨ns, rfl⟩ (by simp)
    · intro p hp hne
      rw [List.append_assoc]
      exact h (m :: p) (List.cons_prefix_cons.2 ⟨rfl, hp⟩) (by simp)
  · rintro ⟨hfirst, h⟩ p hp hne
    obtain ⟨c, p, rfl⟩ := List.exists_cons_of_ne_nil hne
    obtain ⟨rfl, htail⟩ := List.cons_prefix_cons.1 hp
    by_cases hempty : p = []
    · rw [hempty]
      exact hfirst
    · have hp := h p htail hempty
      rwa [List.append_assoc] at hp

/-- A name that leads down, with more names behind it. -/
theorem walk_cons {m : String} (hm : m ≠ "." ∧ m ≠ "..") (hns : ns ≠ []) :
    d.walk here (m :: ns) =
      match d.entry? (here ++ [m]) with
      | none => .error .notFound
      | some (.file _) => .error .notDirectory
      | some .directory => d.walk (here ++ [m]) ns := by
  obtain ⟨k, ks, rfl⟩ := List.exists_cons_of_ne_nil hns
  rw [walk.eq_def d here]
  exact (if_neg hm.1).trans (if_neg hm.2)

/-- Over directories, names lead down. -/
theorem walk_of_reaches (hdown : IsDown (ns ++ [n])) (h : d.Reaches here ns) :
    d.walk here (ns ++ [n]) = .ok (here ++ (ns ++ [n])) := by
  induction ns generalizing here with
  | nil =>
    obtain ⟨hdot, hdots⟩ := hdown n (by simp)
    simp [walk, hdot, hdots]
  | cons m ns ih =>
    obtain ⟨hm, h⟩ := reaches_cons.1 h
    have hlater := ih (fun k hk => hdown k (List.mem_cons_of_mem m hk)) h
    rw [List.cons_append, walk_cons (hdown m (by simp)) (by simp), hm]
    simpa using hlater

/-- Where a directory is missing and no file stands, nothing is found. -/
theorem walk_of_not_reaches (hdown : IsDown (ns ++ [n])) (hclear : d.Clear here ns)
    (h : ¬ d.Reaches here ns) : d.walk here (ns ++ [n]) = .error .notFound := by
  induction ns generalizing here with
  | nil => exact absurd (fun p hp hne => absurd (List.prefix_nil.1 hp) hne) h
  | cons m ns ih =>
    rw [List.cons_append, walk_cons (hdown m (by simp)) (by simp)]
    cases hm : d.entry? (here ++ [m]) with
    | none => rfl
    | some e =>
      cases e with
      | file content => exact absurd hm (hclear [m] ⟨ns, rfl⟩ (by simp) content)
      | directory =>
        -- the one that is missing lies further on
        apply ih
        · intro k hk
          exact hdown k (List.mem_cons_of_mem m hk)
        · intro p hp hne
          rw [List.append_assoc]
          exact hclear (m :: p) (List.cons_prefix_cons.2 ⟨rfl, hp⟩) (by simp)
        · intro hreach
          exact h (reaches_cons.2 ⟨hm, hreach⟩)

/-- Places that lie deeper have other keys. -/
theorem placeKey_ne {p : List String} (hp : p <+: ns) (hne : p ≠ []) :
    placeKey (here ++ p) ≠ placeKey (here ++ (ns ++ [n])) := by
  obtain ⟨more, rfl⟩ := hp
  intro he
  have hkey : placeKey (here ++ (p ++ more ++ [n])) =
      placeKey (here ++ p) ++ "/" ++ "/".intercalate (more ++ [n]) := by
    have hsplit : here ++ (p ++ more ++ [n]) = (here ++ p) ++ (more ++ [n]) := by simp
    rw [hsplit]
    exact String.intercalate_append_of_ne_nil (by simp [hne]) (by simp)
  -- a slash at least stands between the two, so one key is longer
  have hlength := congrArg String.length (he.trans hkey)
  simp only [String.length_append] at hlength
  have hslash : "/".length = 1 := rfl
  omega

/-- What it is to make directories along some names: they stand there, and nothing else has
changed. -/
structure Made (d d' : Disk) (here : DiskPlace) (names : List String) : Prop where
  here_eq : d'.here = d.here
  reaches : d'.Reaches here names
  other : ∀ q, (∀ p, p <+: names → p ≠ [] → placeKey q ≠ placeKey (here ++ p)) →
    d'.entry? q = d.entry? q

theorem Made.trans {d₁ d₂ : Disk} (h₁ : Made d d₁ here ns) (h₂ : Made d₁ d₂ here (ns ++ [n])) :
    Made d d₂ here (ns ++ [n]) where
  here_eq := h₂.here_eq.trans h₁.here_eq
  reaches := h₂.reaches
  other q hq := by
    rw [h₂.other q hq, h₁.other q fun p hp => hq p (hp.trans (List.prefix_append ns [n]))]

/-- **A directory** can be made where those it lies in stand and no file does. -/
theorem ensureDirectory_of_reaches (hdown : IsDown (ns ++ [n])) (h : d.Reaches here ns)
    (hfile : ∀ content, d.entry? (here ++ (ns ++ [n])) ≠ some (.file content)) :
    ∃ d', d.ensureDirectory here (ns ++ [n]) = .ok d' ∧ Made d d' here (ns ++ [n]) := by
  have hwalk := walk_of_reaches hdown h
  cases hentry : d.entry? (here ++ (ns ++ [n])) with
  | none =>
    have hmake : d.makeDirectory here (ns ++ [n]) =
        .ok (d.put (here ++ (ns ++ [n])) .directory) :=
      bind_eq_ok.2 ⟨_, hwalk, by rw [hentry]⟩
    refine ⟨d.put (here ++ (ns ++ [n])) .directory, by rw [ensureDirectory, hmake], rfl, ?_, ?_⟩
    · refine reaches_concat.2 ⟨?_, d.entry?_put_self (by simp) _⟩
      intro p hp hne
      rw [entry?_put, if_neg fun hsame => placeKey_ne hp hne hsame.2]
      exact h p hp hne
    · intro q hq
      rw [entry?_put, if_neg fun hsame => hq _ List.prefix_rfl (by simp) hsame.2]
  | some e =>
    cases e with
    | file content => exact absurd hentry (hfile content)
    | directory =>
      -- it is there already, which is no fault
      have hmake : d.makeDirectory here (ns ++ [n]) = .error .exists := by
        simp [makeDirectory, hwalk, bind, Except.bind, hentry]
      have hdirectory : d.isDirectory here (ns ++ [n]) = true := by
        simp [isDirectory, hwalk, hentry]
      exact ⟨d, by simp [ensureDirectory, hmake, hdirectory], rfl, reaches_concat.2 ⟨h, hentry⟩,
        fun _ _ => rfl⟩

theorem ensureDirectory_of_not_reaches (hdown : IsDown (ns ++ [n])) (hclear : d.Clear here ns)
    (h : ¬ d.Reaches here ns) : d.ensureDirectory here (ns ++ [n]) = .error .notFound := by
  have hwalk := walk_of_not_reaches hdown hclear h
  have hmake : d.makeDirectory here (ns ++ [n]) = .error .notFound := by
    simp only [makeDirectory, hwalk]
    rfl
  simp [ensureDirectory, hmake, isDirectory, hwalk]

/-- **Directories are made** along names that lead down, if no file stands there. -/
theorem exists_makeDirectoriesFrom (hdown : IsDown names) {count : Nat}
    (hcount : count ≤ names.length) (hclear : d.Clear here (names.take count)) :
    ∃ d', d.makeDirectoriesFrom here names count = .ok d' ∧ Made d d' here (names.take count) := by
  induction count with
  | zero =>
    refine ⟨d, rfl, rfl, ?_, fun _ _ => rfl⟩
    intro p hp hne
    rw [List.take_zero] at hp
    exact absurd (List.prefix_nil.1 hp) hne
  | succ count ih =>
    have hlast : names.take (count + 1) = names.take count ++ [names[count]] :=
      (List.take_append_getElem hcount).symm
    have hdown' : IsDown (names.take count ++ [names[count]]) := fun n hn =>
      hdown n (List.mem_of_mem_take (hlast ▸ hn))
    rw [hlast] at hclear
    have hclear' : d.Clear here (names.take count) := fun p hp =>
      hclear p (hp.trans (List.prefix_append _ _))
    have hfile := hclear _ List.prefix_rfl
      (List.append_ne_nil_of_right_ne_nil _ (List.cons_ne_nil names[count] []))
    rw [makeDirectoriesFrom, hlast]
    by_cases hreach : d.Reaches here (names.take count)
    · obtain ⟨d', hd', hmade⟩ := ensureDirectory_of_reaches hdown' hreach hfile
      exact ⟨d', by rw [hd'], hmade⟩
    · -- the directories it lies in are made first, and the place itself stays free of files
      obtain ⟨d₁, hd₁, hmade₁⟩ := ih (Nat.le_of_succ_le hcount) hclear'
      have hsame := hmade₁.other (here ++ (names.take count ++ [names[count]]))
        fun p hp hne => (placeKey_ne hp hne).symm
      obtain ⟨d₂, hd₂, hmade₂⟩ := ensureDirectory_of_reaches hdown' hmade₁.reaches
        (hsame ▸ hfile)
      refine ⟨d₂, ?_, hmade₁.trans hmade₂⟩
      rw [ensureDirectory_of_not_reaches hdown' hclear' hreach]
      exact bind_eq_ok.2 ⟨d₁, hd₁, hd₂⟩

/-- **A path is writable** if its names lead down, no file stands on its way and no directory at its
end. -/
theorem writable_of_clear {path : String} (hend : Path.endsInSlash path = false)
    (hnames : Path.names path = ns ++ [n]) (hdown : IsDown (ns ++ [n]))
    (hclear : d.Clear (d.startOf path) ns)
    (hplace : d.entry? (d.startOf path ++ (ns ++ [n])) ≠ some .directory) : d.Writable path := by
  -- no name is a dot, so the last one is what the others lead to
  have hparent : Path.parent? path = some ns := by
    have hfilter : (ns ++ [n]).filter (· ≠ ".") = ns ++ [n] :=
      List.filter_eq_self.2 fun m hm => decide_eq_true (hdown m hm).1
    rw [Path.parent?, hnames, hfilter]
    obtain ⟨m, ms, hms⟩ := List.exists_cons_of_ne_nil (l := ns ++ [n]) (by simp)
    have hinit : (ns ++ [n]).dropLast = ns := List.dropLast_concat
    rw [hms] at hinit ⊢
    simp only [hinit]
  have hinner : IsDown ns := fun m hm => hdown m (List.mem_append_left _ hm)
  have hall : d.Clear (d.startOf path) (ns.take ns.length) := by rwa [List.take_length]
  obtain ⟨d', hd', hmade⟩ := exists_makeDirectoriesFrom hinner (Nat.le_refl ns.length) hall
  rw [List.take_length] at hmade
  have hstart : d'.startOf path = d.startOf path := by
    unfold startOf
    rw [hmade.here_eq]
  refine ⟨hend, d', d.startOf path ++ (ns ++ [n]), ?_, ?_, ?_⟩
  · rw [makeParents, hparent]
    exact hd'
  · rw [hstart, hnames]
    exact walk_of_reaches hdown hmade.reaches
  · rw [hmade.other _ fun p hp hne => (placeKey_ne hp hne).symm]
    exact hplace

end Disk

end AlertRelay
