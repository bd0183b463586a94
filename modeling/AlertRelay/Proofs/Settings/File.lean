/-
AlertRelay/Proofs/Settings/File.lean

Settings, read back as they were written.

Settings have five sections with fixed names, and every value of theirs fits into a document but
for the four counters, which may be too large for a number with a sign.  If none is
(`Settings.Fits`), the document of the settings is read back as the settings
(`Settings.parse?_write`); if one is, there is no document, and nothing is done to the disk.

A file with a document is not only read but found: the path has the extension of settings, so no
other path is taken in its place, and the same way leads to it that led to it when it was written
(`Settings.load_save`).
-/
import AlertRelay.Proofs.Files.Disk
import AlertRelay.Proofs.Toml.Document
import AlertRelay.Settings.File

namespace AlertRelay

/-! ### Numbers of a width -/

namespace Toml

theorem uint8?_integer (n : UInt8) : uint8? (.integer n.toNat) = some n := by
  simpa [uint8?, integer?] using Int.ofNat_le.2 (Nat.le_of_lt_succ n.toNat_lt)

theorem uint16?_integer (n : UInt16) : uint16? (.integer n.toNat) = some n := by
  simpa [uint16?, integer?] using Int.ofNat_le.2 (Nat.le_of_lt_succ n.toNat_lt)

theorem uint64?_integer (n : UInt64) : uint64? (.integer n.toNat) = some n := by
  simpa [uint64?, integer?] using Int.ofNat_le.2 (Nat.le_of_lt_succ n.toNat_lt)

theorem int64_bounds (n : Int64) : leastInteger ≤ n.toInt ∧ n.toInt ≤ greatestInteger := by
  have hleast : leastInteger = -2 ^ 63 := by decide
  have hgreatest : greatestInteger = 2 ^ 63 - 1 := by decide
  have hle := n.le_toInt
  have hlt := n.toInt_lt
  omega

theorem int64?_integer (n : Int64) : int64? (.integer n.toInt) = some n := by
  simp [int64?, integer?, int64_bounds n]

/-! ### Fields -/

section

variable {α : Type} {read : Toml → Option α} {dflt x : α} {name other : String} {v : Toml}
  {e : Entries}

theorem fieldOr_self (h : read v = some x) : fieldOr ((name, v) :: e) name read dflt = some x := by
  simp [fieldOr, h]

theorem fieldOr_other (h : name ≠ other) :
    fieldOr ((other, v) :: e) name read dflt = fieldOr e name read dflt := by
  simp [fieldOr, List.lookup_cons, beq_false_of_ne h]

end

end Toml

open Toml

/-! ### Tables -/

theorem HttpSettings.ofToml?_table (s : HttpSettings) (origin : Origin) :
    ofToml? (.table origin [("bind", .string s.bind), ("port", .integer s.port.toNat),
      ("path", .string s.path),
      ("confirm_timeout_seconds", .integer s.confirmTimeoutSeconds.toNat)]) = some s := by
  simp [ofToml?, fields?, fieldOr_self, fieldOr_other, text?, uint16?_integer, uint64?_integer]

theorem RedisSettings.ofToml?_table (s : RedisSettings) (origin : Origin) :
    ofToml? (.table origin [("address", .string s.address),
      ("database", .integer s.database.toInt)]) = some s := by
  simp [ofToml?, fields?, fieldOr_self, fieldOr_other, text?, int64?_integer]

theorem Delivery.ofToml?_table (d : Delivery) (origin : Origin) :
    ofToml? (.table origin [("name", .string d.name),
      ("protocol_version", .integer d.version.toNat)]) = some d := by
  simp [ofToml?, fields?, fieldOr_self, fieldOr_other, text?, uint8?_integer]

theorem ReconcilerSettings.ofToml?_table (s : ReconcilerSettings) (origin : Origin) :
    ofToml? (.table origin [("interval_seconds", .integer s.intervalSeconds.toNat),
      ("debug", .bool s.debug)]) = some s := by
  simp [ofToml?, fields?, fieldOr_self, fieldOr_other, bool?, uint64?_integer]

theorem Intake.ofToml?_table (i : Intake) (origin : Origin) :
    ofToml? (.table origin [("buffer", .integer i.buffer.toNat),
      ("submit_timeout_ms", .integer i.submitTimeoutMs.toNat)]) = some i := by
  simp [ofToml?, fields?, fieldOr_self, fieldOr_other, uint64?_integer]

/-! ### Documents -/

namespace Settings

variable (s : Settings)

/-- The numbers that may be too large for a document. -/
def counters : List UInt64 :=
  [s.http.confirmTimeoutSeconds, s.reconciler.intervalSeconds, s.intake.buffer,
    s.intake.submitTimeoutMs]

/-- Settings without a number that is too large. -/
def Fits : Prop :=
  ∀ n ∈ s.counters, (n.toNat : Int) ≤ Int64.maxValue.toInt

-- the four are looked at, and not all numbers of 64 bits
instance : Decidable s.Fits :=
  List.decidableBAll _ s.counters

/-- The sections of settings, whatever the numbers. -/
def sections : List Section :=
  [⟨"http", [("bind", .text s.http.bind), ("port", .integer s.http.port.toNat),
      ("path", .text s.http.path),
      ("confirm_timeout_seconds", .integer s.http.confirmTimeoutSeconds.toNat)]⟩,
    ⟨"redis", [("address", .text s.redis.address),
      ("database", .integer s.redis.database.toInt)]⟩,
    ⟨"queue", [("name", .text s.queue.name),
      ("protocol_version", .integer s.queue.version.toNat)]⟩,
    ⟨"reconciler", [("interval_seconds", .integer s.reconciler.intervalSeconds.toNat),
      ("debug", .bool s.reconciler.debug)]⟩,
    ⟨"intake", [("buffer", .integer s.intake.buffer.toNat),
      ("submit_timeout_ms", .integer s.intake.submitTimeoutMs.toNat)]⟩]

theorem sections?_eq : s.sections? = if s.Fits then some s.sections else none := by
  have hmax : Int64.maxValue.toInt = greatestInteger := by decide
  have hcounter (n : UInt64) : ofUInt64? n =
      if (n.toNat : Int) ≤ greatestInteger then some (.integer n.toNat) else none := rfl
  have hfits : s.Fits ↔ (s.http.confirmTimeoutSeconds.toNat : Int) ≤ greatestInteger ∧
      (s.reconciler.intervalSeconds.toNat : Int) ≤ greatestInteger ∧
      (s.intake.buffer.toNat : Int) ≤ greatestInteger ∧
      (s.intake.submitTimeoutMs.toNat : Int) ≤ greatestInteger := by
    simp [Fits, counters, hmax]
  by_cases h : s.Fits
  · obtain ⟨hconfirm, hinterval, hbuffer, hsubmit⟩ := hfits.1 h
    simp only [sections?, hcounter, hconfirm, hinterval, hbuffer, hsubmit, h, if_true]
    rfl
  · -- some counter is too large, and the first such one ends it
    rw [if_neg h]
    rw [hfits] at h
    simp only [sections?, hcounter]
    split_ifs <;> simp_all

/-- **The document** is there unless a number is too large. -/
theorem document?_eq : s.document? = if s.Fits then some (write s.sections) else none := by
  rw [document?, sections?_eq]
  split <;> rfl

/-- The names in a document of settings. -/
def sectionNames : List (String × List String) :=
  [("http", ["bind", "port", "path", "confirm_timeout_seconds"]),
    ("redis", ["address", "database"]), ("queue", ["name", "protocol_version"]),
    ("reconciler", ["interval_seconds", "debug"]), ("intake", ["buffer", "submit_timeout_ms"])]

theorem names_sections :
    s.sections.map (fun t => (t.name, t.entries.map Prod.fst)) = sectionNames := rfl

theorem isKey_sectionNames :
    ∀ names ∈ sectionNames, IsKey names.1 ∧ (∀ k ∈ names.2, IsKey k) ∧ names.2.Nodup := by
  decide +kernel

theorem fits_natCast {n : Nat} (h : (n : Int) ≤ greatestInteger) :
    (Scalar.integer n).Fits :=
  ⟨Int.le_trans (by decide) (Int.natCast_nonneg n), h⟩

theorem fits_of_mem_sections (h : s.Fits) : ∀ t ∈ s.sections, ∀ e ∈ t.entries, e.2.Fits := by
  have hgreatest : greatestInteger = 2 ^ 63 - 1 := by decide
  have hport : (Scalar.integer (s.http.port.toNat : Int)).Fits := by
    have hlt := s.http.port.toNat_lt
    exact fits_natCast (by omega)
  have hversion : (Scalar.integer (s.queue.version.toNat : Int)).Fits := by
    have hlt := s.queue.version.toNat_lt
    exact fits_natCast (by omega)
  have hdatabase : (Scalar.integer s.redis.database.toInt).Fits := int64_bounds _
  have htext : ∀ text, (Scalar.text text).Fits := fun _ => trivial
  have hdebug : ∀ b, (Scalar.bool b).Fits := fun _ => trivial
  have hcounter : ∀ n ∈ s.counters, (Scalar.integer (n.toNat : Int)).Fits := fun n hn =>
    fits_natCast (h n hn)
  simp only [counters, List.forall_mem_cons] at hcounter
  simp only [sections, List.forall_mem_cons, hport, hversion, hdatabase, htext, hdebug, hcounter,
    List.not_mem_nil, false_imp_iff, implies_true, and_self]

theorem isPlain_of_mem_sections (h : s.Fits) : ∀ t ∈ s.sections, t.IsPlain := by
  intro t ht
  have hnames : (t.name, t.entries.map Prod.fst) ∈ sectionNames := by
    rw [← s.names_sections]
    exact List.mem_map_of_mem ht
  obtain ⟨hname, hkeys, hnodup⟩ := isKey_sectionNames _ hnames
  exact ⟨hname, fun e he => hkeys _ (List.mem_map_of_mem he), hnodup, s.fits_of_mem_sections h t ht⟩

/-- The tables of the sections hold the settings. -/
theorem ofEntries?_sections : ofEntries? (s.sections.map Section.toml) = some s := by
  simp [ofEntries?, sections, Section.toml, Scalar.entry, Scalar.toml, fieldOr_self, fieldOr_other,
    HttpSettings.ofToml?_table, RedisSettings.ofToml?_table, Delivery.ofToml?_table,
    ReconcilerSettings.ofToml?_table, Intake.ofToml?_table]

/-- **A document** of settings is read back. -/
theorem parse?_write (h : s.Fits) : parse? (write s.sections) = some s := by
  have hnodup : (s.sections.map Section.name).Nodup := by
    show ["http", "redis", "queue", "reconciler", "intake"].Nodup
    decide
  rw [parse?, Toml.parse?_write (s.isPlain_of_mem_sections h) hnodup, Option.bind_some,
    ofEntries?_sections]

end Settings

/-! ### Files -/

/-- A path whose last name ends in the extension of settings. -/
def Path.IsToml (path : String) : Prop :=
  ∃ before name stem, Path.lastName? path = some (before, name) ∧
    Path.splitName name = (stem, some Path.tomlExtension)

/-- The file that is asked for is the file that is used. -/
theorem Path.IsToml.withToml_eq {path : String} (h : Path.IsToml path) :
    Path.withToml path = path := by
  obtain ⟨before, name, stem, hlast, hname⟩ := h
  simp [Path.withToml, hlast, hname]

theorem Path.IsToml.ne_empty {path : String} (h : Path.IsToml path) : path ≠ "" := by
  rintro rfl
  obtain ⟨before, name, stem, hlast, -⟩ := h
  cases hlast

namespace Settings

variable {s : Settings} {path : String} {d d' : Disk}

/-- **Settings without a number that is too large** can be written where a file can. -/
theorem save_of_fits (h : s.Fits) (hwritable : d.Writable path) :
    ∃ d₁ d' : Disk, d₁.write path (utf8 (write s.sections)) = .ok d' ∧
      s.save path d = (.ok (), d') := by
  obtain ⟨d₁, d', hparents, hwrite⟩ := hwritable.exists_write (utf8 (write s.sections))
  have hdocument : s.document? = some (write s.sections) := by rw [document?_eq, if_pos h]
  exact ⟨d₁, d', hwrite, by simp only [save, hdocument, hparents, hwrite]⟩

/-- Other settings leave the disk alone. -/
theorem save_of_not_fits (h : ¬ s.Fits) (path : String) (d : Disk) :
    s.save path d = (.error .serializeFailed, d) := by
  have hdocument : s.document? = none := by rw [document?_eq, if_neg h]
  simp only [save, hdocument]

/-- A file with a document of settings is read as the settings. -/
theorem loadFrom_of_lookUp (h : s.Fits)
    (hfile : d.lookUp path = .ok (.file (utf8 (write s.sections)))) :
    loadFrom path d = (.ok s, d) := by
  have hread := Disk.readText_of_lookUp hfile
  have hhas := Disk.has_of_lookUp hfile
  simp only [loadFrom, hhas, hread, parse?_write s h, if_true]

/-- **Settings are read as they were written**, and the file stays as it is. -/
theorem load_save (hpath : Path.IsToml path) (hwritable : d.Writable path) (s : Settings)
    (env : Environment) :
    (s.Fits → ∃ d', s.save path d = (.ok (), d') ∧ load (some path) env d' = (.ok s, d')) ∧
      (¬ s.Fits → s.save path d = (.error .serializeFailed, d)) := by
  constructor
  · intro h
    obtain ⟨d₁, d', hwrite, hsave⟩ := save_of_fits h hwritable
    refine ⟨d', hsave, ?_⟩
    show loadFrom (Path.withToml path) d' = _
    rw [hpath.withToml_eq]
    exact loadFrom_of_lookUp h (Disk.lookUp_write hpath.ne_empty hwrite)
  · intro h
    exact save_of_not_fits h path d

/-- Settings whose texts have quotes of both kinds, a backslash, a line break and a control. -/
def quoted : Settings where
  http := { path := "\n\"\"\"'''\\" }
  redis := { address := "'it''s'", database := -1 }
  queue := { name := "\x01\"", version := 1 }

theorem load_save_quoted :
    Path.IsToml "etc/relay/config.toml" ∧ ({} : Disk).Writable "etc/relay/config.toml" ∧
      quoted.Fits ∧ ∃ d', quoted.save "etc/relay/config.toml" {} = (.ok (), d') ∧
        load (some "etc/relay/config.toml") ∅ d' = (.ok quoted, d') := by
  have hpath : Path.IsToml "etc/relay/config.toml" :=
    ⟨"etc/relay/".toList, "config.toml".toList, "config".toList, by decide +kernel,
      by decide +kernel⟩
  have hnone : ∀ place, place ≠ [] → Disk.entry? {} place = none := by
    intro place hne
    rw [Disk.entry?, if_neg hne]
    rfl
  have hnames : Path.names "etc/relay/config.toml" = ["etc", "relay"] ++ ["config.toml"] := by
    decide +kernel
  have hwritable : ({} : Disk).Writable "etc/relay/config.toml" := by
    refine Disk.writable_of_clear (by decide +kernel) hnames (by decide) ?_ ?_
    · intro p hp hne content
      rw [hnone _ (by simp [hne])]
      simp
    · rw [hnone _ (by simp)]
      simp
  have hfits : quoted.Fits := by decide +kernel
  exact ⟨hpath, hwritable, hfits, (load_save hpath hwritable quoted ∅).1 hfits⟩

end Settings

end AlertRelay
