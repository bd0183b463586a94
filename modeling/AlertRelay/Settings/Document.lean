/-
AlertRelay/Settings/Document.lean

Settings as a TOML document.

Reading takes the value of every setting that is not in the document from the defaults, and does
not care about anything else that is in it.  Writing writes every setting.  A document holds whole
numbers of 64 bits with a sign, so settings with a larger number cannot be written.
-/
import AlertRelay.Settings.Basic
import AlertRelay.Toml.Reader
import AlertRelay.Toml.Writer

namespace AlertRelay

namespace Toml

/-! ### Numbers of a width -/

/-- A number of 8 bits. -/
def uint8? (v : Toml) : Option UInt8 :=
  (v.integer? 0 ((Nat.pow 2 8 : Nat) - 1)).map fun n => UInt8.ofNat n.toNat

/-- A number of 16 bits. -/
def uint16? (v : Toml) : Option UInt16 :=
  (v.integer? 0 ((Nat.pow 2 16 : Nat) - 1)).map fun n => UInt16.ofNat n.toNat

/-- A number of 64 bits. -/
def uint64? (v : Toml) : Option UInt64 :=
  (v.integer? 0 ((Nat.pow 2 64 : Nat) - 1)).map fun n => UInt64.ofNat n.toNat

/-- A number of 64 bits with a sign. -/
def int64? (v : Toml) : Option Int64 :=
  (v.integer? leastInteger greatestInteger).map Int64.ofInt

/-- A number of 64 bits, if a document can hold it. -/
def ofUInt64? (n : UInt64) : Option Scalar :=
  if (n.toNat : Int) ≤ greatestInteger then some (.integer n.toNat) else none

end Toml

open Toml

/-! ### Reading -/

/-- The settings of a section for receiving. -/
def HttpSettings.ofToml? (v : Toml) : Option HttpSettings := do
  let e ← v.fields? ["bind", "port", "path", "confirm_timeout_seconds"]
  let dflt : HttpSettings := {}
  pure {
    bind := ← fieldOr e "bind" text? dflt.bind
    port := ← fieldOr e "port" uint16? dflt.port
    path := ← fieldOr e "path" text? dflt.path
    confirmTimeoutSeconds :=
      ← fieldOr e "confirm_timeout_seconds" uint64? dflt.confirmTimeoutSeconds }

/-- The settings of a section for the server of lists. -/
def RedisSettings.ofToml? (v : Toml) : Option RedisSettings := do
  let e ← v.fields? ["address", "database"]
  let dflt : RedisSettings := {}
  pure {
    address := ← fieldOr e "address" text? dflt.address
    database := ← fieldOr e "database" int64? dflt.database }

/-- The settings of a section for handing over. -/
def Delivery.ofToml? (v : Toml) : Option Delivery := do
  let e ← v.fields? ["name", "protocol_version"]
  let dflt : Delivery := {}
  pure {
    name := ← fieldOr e "name" text? dflt.name
    version := ← fieldOr e "protocol_version" uint8? dflt.version }

/-- The settings of a section for ticks. -/
def ReconcilerSettings.ofToml? (v : Toml) : Option ReconcilerSettings := do
  let e ← v.fields? ["interval_seconds", "debug"]
  let dflt : ReconcilerSettings := {}
  pure {
    intervalSeconds := ← fieldOr e "interval_seconds" uint64? dflt.intervalSeconds
    debug := ← fieldOr e "debug" bool? dflt.debug }

/-- The settings of a section for the intake. -/
def Intake.ofToml? (v : Toml) : Option Intake := do
  let e ← v.fields? ["buffer", "submit_timeout_ms"]
  let dflt : Intake := {}
  pure {
    buffer := ← fieldOr e "buffer" uint64? dflt.buffer
    submitTimeoutMs := ← fieldOr e "submit_timeout_ms" uint64? dflt.submitTimeoutMs }

/-- The settings of a document. -/
def Settings.ofEntries? (e : Entries) : Option Settings := do
  let dflt : Settings := {}
  pure {
    http := ← fieldOr e "http" HttpSettings.ofToml? dflt.http
    redis := ← fieldOr e "redis" RedisSettings.ofToml? dflt.redis
    queue := ← fieldOr e "queue" Delivery.ofToml? dflt.queue
    reconciler := ← fieldOr e "reconciler" ReconcilerSettings.ofToml? dflt.reconciler
    intake := ← fieldOr e "intake" Intake.ofToml? dflt.intake }

/-- The settings that a text spells. -/
def Settings.parse? (text : String) : Option Settings :=
  (Toml.parse? text).bind Settings.ofEntries?

/-! ### Writing -/

/-- The sections of a document with all settings. -/
def Settings.sections? (s : Settings) : Option (List Section) := do
  let confirm ← ofUInt64? s.http.confirmTimeoutSeconds
  let interval ← ofUInt64? s.reconciler.intervalSeconds
  let buffer ← ofUInt64? s.intake.buffer
  let submit ← ofUInt64? s.intake.submitTimeoutMs
  pure [
    ⟨"http", [("bind", .text s.http.bind), ("port", .integer s.http.port.toNat),
      ("path", .text s.http.path), ("confirm_timeout_seconds", confirm)]⟩,
    ⟨"redis", [("address", .text s.redis.address),
      ("database", .integer s.redis.database.toInt)]⟩,
    ⟨"queue", [("name", .text s.queue.name),
      ("protocol_version", .integer s.queue.version.toNat)]⟩,
    ⟨"reconciler", [("interval_seconds", interval), ("debug", .bool s.reconciler.debug)]⟩,
    ⟨"intake", [("buffer", buffer), ("submit_timeout_ms", submit)]⟩]

/-- The document with all settings. -/
def Settings.document? (s : Settings) : Option String :=
  s.sections?.map Toml.write

end AlertRelay
