/-
AlertRelay/Proofs/CommandLine/Load.lean

Settings from flags, a file and the defaults.

Flags are applied to a base.  If a file is named, the base comes from it, and what this can do to a
disk is said once (`Settings.Loaded`): a file that is there is read, and one that is not is written
with the defaults, if it can be.  The flags come after this, so they change no file; the address is
looked at last, so a fault in it changes no file either, and the address that counts is the one with
the flags applied.

A base is there again afterwards (`ServerFlags.base_again`), in the file that was found or in the
one that was written, for the text of the defaults is read as the defaults.  A path that is given on
a command line is not empty (`ServerFlags.config_ne_empty`), which is all that has to be known about
the words.
-/
import AlertRelay.Proofs.CommandLine.Options
import AlertRelay.Proofs.Settings.Extension
import AlertRelay.Proofs.Settings.Layers

namespace AlertRelay

/-! ### Files of settings -/

namespace Settings

/-- The text of a file with the defaults. -/
def defaultText : String :=
  Toml.write ({} : Settings).sections

theorem fits_default : ({} : Settings).Fits := by
  decide +kernel

theorem document?_default : ({} : Settings).document? = some defaultText := by
  rw [document?_eq, if_pos fits_default]
  rfl

/-- What it is to read settings from a file, which is written first if it is not there. -/
inductive Loaded (path : String) (d : Disk) : Except SettingsFault Settings → Disk → Prop where
  | read {text : String} {s : Settings} (hhas : d.has path = true)
      (htext : d.readText path = .ok text) (hparse : parse? text = some s) : Loaded path d (.ok s) d
  | unread {fault : SettingsFault} (hhas : d.has path = true)
      (hfault : ∀ text, fault ≠ .invalidAddress text) : Loaded path d (.error fault) d
  | written {d₁ d' : Disk} (hhas : d.has path = false) (hwritable : d.Writable path)
      (hparents : d.makeParents path = .ok d₁)
      (hwrite : d₁.write path (utf8 defaultText) = .ok d') : Loaded path d (.ok {}) d'
  | unwritten {fault : FileFault} {d' : Disk} (hhas : d.has path = false)
      (hwritable : ¬ d.Writable path) : Loaded path d (.error (.writeFailed fault)) d'

/-- **Settings are loaded** in one of four ways. -/
theorem loaded (path : String) (d : Disk) :
    Loaded path d (loadFrom path d).1 (loadFrom path d).2 := by
  rw [loadFrom]
  split_ifs with hhas
  · cases htext : d.readText path with
    | error fault => exact .unread hhas (by simp)
    | ok text =>
      dsimp only
      cases hparse : parse? text with
      | none => exact .unread hhas (by simp)
      | some s => exact .read hhas htext hparse
  · rw [Bool.not_eq_true] at hhas
    simp only [save, document?_default]
    cases hparents : d.makeParents path with
    | error fault =>
      refine .unwritten hhas fun hwritable => ?_
      obtain ⟨d₁, d', hparents', -⟩ := hwritable.exists_write []
      rw [hparents] at hparents'
      cases hparents'
    | ok d₁ =>
      dsimp only
      cases hwrite : d₁.write path (utf8 defaultText) with
      | error fault =>
        refine .unwritten hhas fun hwritable => ?_
        obtain ⟨d₂, d', hparents', hwrite'⟩ := hwritable.exists_write (utf8 defaultText)
        rw [hparents] at hparents'
        cases hparents'
        rw [hwrite] at hwrite'
        cases hwrite'
      | ok d' =>
        obtain ⟨hend, place, hwalk, hplace, -⟩ := Disk.write_eq_ok_iff.1 hwrite
        exact .written hhas ⟨hend, d₁, place, hparents, hwalk, hplace⟩ hparents hwrite

end Settings

namespace ServerFlags

variable {f : ServerFlags} {s : Settings} {fault : SettingsFault} {path : String} {d d' : Disk}

/-! ### The base -/

theorem base_of_none (h : f.config = none) (d : Disk) : f.base d = (.ok {}, d) := by
  simp only [base, h]

theorem loaded_of_base (h : f.config = some path) {r : Except SettingsFault Settings}
    (hbase : f.base d = (r, d')) : Settings.Loaded (Path.withToml path) d r d' := by
  have hloaded := Settings.loaded (Path.withToml path) d
  simp only [base, h] at hbase
  rwa [hbase] at hloaded

theorem commandLine_keeps : commandLine.Keeps fun f => f.config ≠ some "" where
  flags := by
    have hset : ∀ o : ServerFlags, o.config ≠ some "" → o.config ≠ some "" := fun _ h => h
    simp only [commandLine, List.forall_mem_cons]
    refine ⟨Flag.path_keeps fun s o hs _ => by simpa using hs, Flag.number_keeps fun _ => hset,
      Flag.text_keeps fun _ => hset, Flag.text_keeps fun _ => hset, Flag.text_keeps fun _ => hset,
      Flag.number_keeps fun _ => hset, Flag.duration_keeps fun _ _ o _ => hset o,
      Flag.text_keeps fun _ => hset, Flag.number_keeps fun _ => hset, hset, hset, ?_⟩
    exact fun _ h => absurd h List.not_mem_nil
  arguments _ h := absurd h List.not_mem_nil

/-- **The file that is named** has a name. -/
theorem config_ne_empty {env : Environment} {words : List String}
    (h : parse env words = .ok f) : f.config ≠ some "" :=
  CommandLine.parse_keeps commandLine_keeps (by decide) h

theorem withToml_ne_empty (hname : f.config ≠ some "") (h : f.config = some path) :
    Path.withToml path ≠ "" := by
  apply Path.withToml_ne_empty
  rintro rfl
  exact hname h

/-- **The base is there again**, in the file that was found or written. -/
theorem base_again (hname : f.config ≠ some "") (h : f.base d = (.ok s, d')) :
    f.base d' = (.ok s, d') := by
  cases hconfig : f.config with
  | none =>
    rw [base_of_none hconfig] at h ⊢
    cases h
    rfl
  | some path =>
    cases loaded_of_base hconfig h with
    | read => exact h
    | written hhas hwritable hparents hwrite =>
      have hfile := Disk.lookUp_write (withToml_ne_empty hname hconfig) hwrite
      simp only [base, hconfig]
      exact Settings.loadFrom_of_lookUp Settings.fits_default hfile

/-- The document that settings come from.  It is empty if no file is named, or none is there. -/
def document? (f : ServerFlags) (d : Disk) : Option Toml.Entries :=
  match f.config with
  | none => some []
  | some path =>
    if d.has (Path.withToml path) then
      (d.readText (Path.withToml path)).toOption.bind Toml.parse?
    else some []

/-- **The base** is what the document holds. -/
theorem exists_document (h : f.base d = (.ok s, d')) :
    ∃ e, f.document? d = some e ∧ Settings.ofEntries? e = some s := by
  cases hconfig : f.config with
  | none =>
    rw [base_of_none hconfig] at h
    cases h
    exact ⟨[], by simp only [document?, hconfig], rfl⟩
  | some path =>
    cases loaded_of_base hconfig h with
    | read hhas htext hparse =>
      obtain ⟨e, he, hs⟩ := Option.bind_eq_some_iff.1 hparse
      refine ⟨e, ?_, hs⟩
      simp only [document?, hconfig, hhas, if_true, htext, Except.toOption, Option.bind_some, he]
    | written hhas =>
      exact ⟨[], by simp only [document?, hconfig, hhas, Bool.false_eq_true, if_false], rfl⟩

theorem fault_of_base (h : f.base d = (.error fault, d')) (text : String) :
    fault ≠ .invalidAddress text := by
  cases hconfig : f.config with
  | none =>
    rw [base_of_none hconfig] at h
    cases h
  | some path =>
    cases loaded_of_base hconfig h with
    | unread hhas hfault => exact hfault text
    | unwritten => nofun

/-! ### Flags on the base -/

theorem load_of_base_error (h : f.base d = (.error fault, d')) : f.load d = (.error fault, d') := by
  simp only [load, h]

/-- On a base, the address decides and the disk is left alone. -/
theorem load_of_base_ok (h : f.base d = (.ok s, d')) :
    f.load d = (if (Address.parse? (f.apply s).redis.address).isSome then .ok (f.apply s)
      else .error (.invalidAddress (f.apply s).redis.address), d') := by
  simp only [load, h, readAddress]
  cases Address.parse? (f.apply s).redis.address <;> rfl

theorem load_snd (f : ServerFlags) (d : Disk) : (f.load d).2 = (f.base d).2 := by
  cases hbase : f.base d with
  | mk r d' =>
    cases r with
    | error fault => rw [load_of_base_error hbase]
    | ok s => rw [load_of_base_ok hbase]

theorem base_of_load (h : f.load d = (.ok s, d')) :
    ∃ b, f.base d = (.ok b, d') ∧ s = f.apply b := by
  cases hbase : f.base d with
  | mk r d₁ =>
    cases r with
    | error fault =>
      rw [load_of_base_error hbase] at h
      cases h
    | ok b =>
      rw [load_of_base_ok hbase] at h
      split_ifs at h
      · cases h
        exact ⟨b, rfl, rfl⟩
      · cases h

/-! ### Layers -/

/-- What flags, a file and the defaults come to. -/
structure Loads (f : ServerFlags) (d : Disk) : Prop where
  /-- Each setting is what its flag makes of the document, or else of the default. -/
  settings : ∀ s d', f.load d = (.ok s, d') → ∃ e, f.document? d = some e ∧
    ∀ x ∈ Setting.all, x.2.Effective f e (x.2.get s)
  /-- On a base, nothing decides but the address that comes out. -/
  address : ∀ s d', f.base d = (.ok s, d') → ∃ e text, f.document? d = some e ∧
    Setting.address.Effective f e text ∧
    (f.load d).1 = if (Address.parse? text).isSome then .ok (f.apply s)
      else .error (.invalidAddress text)
  /-- Without a base, the fault is another one. -/
  fault : ∀ fault d', f.base d = (.error fault, d') →
    f.load d = (.error fault, d') ∧ ∀ text, fault ≠ .invalidAddress text
  /-- What becomes of the disk does not depend on any other flag. -/
  disk : ∀ g : ServerFlags, g.config = f.config → (g.load d).2 = (f.load d).2
  /-- Without a file, the disk is neither looked at nor changed. -/
  unnamed : f.config = none → ∀ d', f.base d' = (.ok {}, d') ∧ f.load d' = ((f.load d).1, d')
  /-- The file has the extension of settings. -/
  extension : ∀ path, f.config = some path → (Path.lastName? path).isSome →
    Path.IsToml (Path.withToml path)
  /-- A file that is there stays as it is, and the base is what it holds. -/
  found : ∀ path, f.config = some path → d.has (Path.withToml path) = true → (f.load d).2 = d ∧
    ∀ text s, d.readText (Path.withToml path) = .ok text → Settings.parse? text = some s →
      f.base d = (.ok s, d)
  /-- One that is not there is made, and the base is what it holds: the defaults. -/
  missing : ∀ path, f.config = some path → d.has (Path.withToml path) = false →
    d.Writable (Path.withToml path) → ∃ text d₁, ({} : Settings).document? = some text ∧
      Settings.parse? text = some {} ∧ d.makeParents (Path.withToml path) = .ok d₁ ∧
      d₁.write (Path.withToml path) (utf8 text) = .ok (f.load d).2 ∧
      (f.load d).2.lookUp (Path.withToml path) = .ok (.file (utf8 text)) ∧
      f.base d = (.ok {}, (f.load d).2)
  /-- One that cannot be made is the fault. -/
  unwritable : ∀ path, f.config = some path → d.has (Path.withToml path) = false →
    ¬ d.Writable (Path.withToml path) → ∃ fault, (f.load d).1 = .error (.writeFailed fault)
  /-- The same flags give the same settings again, and then change nothing. -/
  again : ∀ s d', f.load d = (.ok s, d') → f.load d' = (.ok s, d')

theorem base_of_text (h : f.config = some path) (hhas : d.has (Path.withToml path) = true)
    {text : String} (htext : d.readText (Path.withToml path) = .ok text)
    (hparse : Settings.parse? text = some s) : f.base d = (.ok s, d) := by
  simp only [base, h, Settings.loadFrom, hhas, if_true, htext, hparse]

theorem load_of_has (h : f.config = some path) (hhas : d.has (Path.withToml path) = true) :
    (f.load d).2 = d := by
  rw [load_snd]
  cases hbase : f.base d with
  | mk r d' =>
    cases loaded_of_base h hbase with
    | read => rfl
    | unread => rfl
    | written hmissing => simp [hmissing] at hhas
    | unwritten hmissing => simp [hmissing] at hhas

theorem load_of_missing (h : f.config = some path) (hhas : d.has (Path.withToml path) = false)
    (hwritable : d.Writable (Path.withToml path)) :
    f.base d = (.ok {}, (f.load d).2) ∧ ∃ d₁, d.makeParents (Path.withToml path) = .ok d₁ ∧
      d₁.write (Path.withToml path) (utf8 Settings.defaultText) = .ok (f.load d).2 := by
  rw [load_snd]
  cases hbase : f.base d with
  | mk r d' =>
    cases loaded_of_base h hbase with
    | read hfound => simp [hfound] at hhas
    | unread hfound => simp [hfound] at hhas
    | @written d₁ _ _ _ hparents hwrite => exact ⟨rfl, d₁, hparents, hwrite⟩
    | unwritten _ hnot => exact absurd hwritable hnot

theorem load_of_not_writable (h : f.config = some path)
    (hhas : d.has (Path.withToml path) = false) (hwritable : ¬ d.Writable (Path.withToml path)) :
    ∃ fault, (f.load d).1 = .error (.writeFailed fault) := by
  cases hbase : f.base d with
  | mk r d' =>
    cases loaded_of_base h hbase with
    | read hfound => simp [hfound] at hhas
    | unread hfound => simp [hfound] at hhas
    | written _ hcan => exact absurd hcan hwritable
    | @unwritten fault => exact ⟨fault, by rw [load_of_base_error hbase]⟩

/-- **Flags** stand before the file and the file before the defaults, and no flag gets into the
file. -/
theorem load_layered {env : Environment} {words : List String} {f : ServerFlags}
    (h : parse env words = .ok f) (d : Disk) : f.Loads d where
  settings s d' hload := by
    obtain ⟨b, hbase, rfl⟩ := base_of_load hload
    obtain ⟨e, he, hb⟩ := exists_document hbase
    exact ⟨e, he, Setting.effective_apply hb f⟩
  address s d' hbase := by
    obtain ⟨e, he, hs⟩ := exists_document hbase
    have haddress := Setting.effective_apply hs f ⟨_, Setting.address⟩ (by simp [Setting.all])
    refine ⟨e, (f.apply s).redis.address, he, haddress, ?_⟩
    rw [load_of_base_ok hbase]
  fault fault d' hbase := ⟨load_of_base_error hbase, fault_of_base hbase⟩
  disk g hg := by
    have hbase : g.base d = f.base d := by
      unfold base
      rw [hg]
    rw [load_snd, load_snd, hbase]
  unnamed hconfig d' := by
    refine ⟨base_of_none hconfig d', ?_⟩
    rw [load_of_base_ok (base_of_none hconfig d'), load_of_base_ok (base_of_none hconfig d)]
  extension path _ hlast := Path.isToml_withToml hlast
  found path hconfig hhas :=
    ⟨load_of_has hconfig hhas, fun _ _ htext hparse => base_of_text hconfig hhas htext hparse⟩
  missing path hconfig hhas hwritable := by
    obtain ⟨hbase, d₁, hparents, hwrite⟩ := load_of_missing hconfig hhas hwritable
    have hpath := withToml_ne_empty (config_ne_empty h) hconfig
    exact ⟨Settings.defaultText, d₁, Settings.document?_default,
      Settings.parse?_write {} Settings.fits_default, hparents, hwrite,
      Disk.lookUp_write hpath hwrite, hbase⟩
  unwritable path hconfig hhas hwritable := load_of_not_writable hconfig hhas hwritable
  again s d' hload := by
    obtain ⟨b, hbase, rfl⟩ := base_of_load hload
    have hagain := base_again (config_ne_empty h) hbase
    rw [load_of_base_ok hbase] at hload
    rw [load_of_base_ok hagain]
    exact hload

theorem load_layered_relay :
    parse ∅ ["--config", "relay", "--server", "nowhere"] =
        .ok { config := some "relay", server := some "nowhere" } ∧
      Loads { config := some "relay", server := some "nowhere" } {} := by
  have hparse : parse ∅ ["--config", "relay", "--server", "nowhere"] =
      .ok { config := some "relay", server := some "nowhere" } := by
    decide +kernel
  exact ⟨hparse, load_layered hparse {}⟩

end ServerFlags

end AlertRelay
