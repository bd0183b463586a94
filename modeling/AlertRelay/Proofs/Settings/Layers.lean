/-
AlertRelay/Proofs/Settings/Layers.lean

Where a setting comes from.

Each setting has a place of its own in a document, a default, and perhaps a flag (`Setting`).  The
places do not overlap, and no setting is read off another one, so what becomes of a setting can be
told without the others: it is what its flag makes of what the document has for it, and of the
default if the document has nothing (`Setting.Effective`).  A document may leave out a setting, a
section or everything; to leave out a section is to leave out every setting in it.

This is the same for all settings (`Setting.all`), and proved of each as an instance of one lemma
about optional values (`Setting.reads_inDocument?`).
-/
import AlertRelay.CommandLine.Server

namespace AlertRelay

open Toml

/-- One setting, and where it comes from. -/
structure Setting (α : Type) where
  /-- The section of a document that it stands in. -/
  table : String
  /-- The names of all settings of this section, in order. -/
  names : List String
  name : String
  read : Toml → Option α
  dflt : α
  get : Settings → α
  /-- What flags make of the value. -/
  flag : ServerFlags → α → α := fun _ y => y

namespace Setting

variable {α : Type} (x : Setting α)

/-! ### Layers -/

/-- What a section has for a setting. -/
def inSection? (v : Toml) : Option Toml :=
  (v.fields? x.names).bind fun fields => fields.lookup x.name

/-- What a document has for a setting. -/
def inDocument? (e : Entries) : Option Toml :=
  (e.lookup x.table).bind x.inSection?

/-- What is there is read as a value; where nothing is, the value is the default. -/
def Reads : Option Toml → α → Prop
  | none, y => y = x.dflt
  | some v, y => x.read v = some y

/-- The value that a setting has with flags and a document. -/
def Effective (f : ServerFlags) (e : Entries) (y : α) : Prop :=
  ∃ z, x.Reads (x.inDocument? e) z ∧ y = x.flag f z

/-- An optional value is read if it is there. -/
theorem reads_inSection? {v : Toml} {fields : Entries} (hfields : v.fields? x.names = some fields)
    {y : α} (h : fieldOr fields x.name x.read x.dflt = some y) : x.Reads (x.inSection? v) y := by
  unfold fieldOr at h
  rw [inSection?, hfields, Option.bind_some]
  cases hlookup : fields.lookup x.name with
  | none =>
    rw [hlookup] at h
    exact (Option.some.inj h).symm
  | some w =>
    rw [hlookup] at h
    exact h

/-- **A setting** is in a document as it is in its section. -/
theorem reads_inDocument? {σ : Type} {ofToml? : Toml → Option σ} {dflt s : σ} {e : Entries}
    (proj : σ → α) (h : fieldOr e x.table ofToml? dflt = some s) (hdflt : proj dflt = x.dflt)
    (hsection : ∀ v s, ofToml? v = some s → x.Reads (x.inSection? v) (proj s)) :
    x.Reads (x.inDocument? e) (proj s) := by
  unfold fieldOr at h
  unfold inDocument?
  cases hlookup : e.lookup x.table with
  | none =>
    rw [hlookup] at h
    obtain rfl : dflt = s := Option.some.inj h
    exact hdflt
  | some v =>
    rw [hlookup] at h
    exact hsection v s h

/-! ### The settings -/

def httpNames : List String :=
  ["bind", "port", "path", "confirm_timeout_seconds"]

def redisNames : List String :=
  ["address", "database"]

def queueNames : List String :=
  ["name", "protocol_version"]

def reconcilerNames : List String :=
  ["interval_seconds", "debug"]

def intakeNames : List String :=
  ["buffer", "submit_timeout_ms"]

def bindAddress : Setting String :=
  ⟨"http", httpNames, "bind", text?, "0.0.0.0", (·.http.bind),
    fun f y => f.bind.getD y⟩

def port : Setting UInt16 :=
  ⟨"http", httpNames, "port", uint16?, 3090, (·.http.port), fun f y => f.port.getD y⟩

def path : Setting String :=
  ⟨"http", httpNames, "path", text?, "/state", (·.http.path), fun f y => f.path.getD y⟩

def confirmTimeout : Setting UInt64 where
  table := "http"
  names := httpNames
  name := "confirm_timeout_seconds"
  read := uint64?
  dflt := 10
  get := (·.http.confirmTimeoutSeconds)

def address : Setting String :=
  ⟨"redis", redisNames, "address", text?, "localhost:6380", (·.redis.address),
    fun f y => f.server.getD y⟩

def database : Setting Int64 :=
  ⟨"redis", redisNames, "database", int64?, 0, (·.redis.database),
    fun f y => f.database.getD y⟩

def queueName : Setting String :=
  ⟨"queue", queueNames, "name", text?, "events", (·.queue.name), fun f y => f.queue.getD y⟩

def version : Setting UInt8 :=
  ⟨"queue", queueNames, "protocol_version", uint8?, 2, (·.queue.version),
    fun f y => f.protocolVersion.getD y⟩

/-- The flag is a span of time, of which the whole seconds count. -/
def interval : Setting UInt64 :=
  ⟨"reconciler", reconcilerNames, "interval_seconds", uint64?, 10, (·.reconciler.intervalSeconds),
    fun f y => (f.interval.map fun d => UInt64.ofNat d.seconds).getD y⟩

/-- The flag can only switch it on. -/
def debug : Setting Bool :=
  ⟨"reconciler", reconcilerNames, "debug", bool?, false, (·.reconciler.debug),
    fun f y => y || f.debug⟩

def buffer : Setting UInt64 where
  table := "intake"
  names := intakeNames
  name := "buffer"
  read := uint64?
  dflt := 1024
  get := (·.intake.buffer)

def submitTimeout : Setting UInt64 where
  table := "intake"
  names := intakeNames
  name := "submit_timeout_ms"
  read := uint64?
  dflt := 500
  get := (·.intake.submitTimeoutMs)

/-- All settings. -/
def all : List (Σ α, Setting α) :=
  [⟨_, bindAddress⟩, ⟨_, port⟩, ⟨_, path⟩, ⟨_, confirmTimeout⟩, ⟨_, address⟩, ⟨_, database⟩,
    ⟨_, queueName⟩, ⟨_, version⟩, ⟨_, interval⟩, ⟨_, debug⟩, ⟨_, buffer⟩, ⟨_, submitTimeout⟩]

/-- What holds of each setting holds of all. -/
theorem forall_mem_all {P : (Σ α, Setting α) → Prop} :
    (∀ x ∈ all, P x) ↔ P ⟨_, bindAddress⟩ ∧ P ⟨_, port⟩ ∧ P ⟨_, path⟩ ∧ P ⟨_, confirmTimeout⟩ ∧
      P ⟨_, address⟩ ∧ P ⟨_, database⟩ ∧ P ⟨_, queueName⟩ ∧ P ⟨_, version⟩ ∧ P ⟨_, interval⟩ ∧
      P ⟨_, debug⟩ ∧ P ⟨_, buffer⟩ ∧ P ⟨_, submitTimeout⟩ := by
  simp only [all, List.forall_mem_cons, List.not_mem_nil, false_imp_iff, implies_true, and_true]

/-! ### Sections -/

variable {v : Toml}

theorem of_http {h : HttpSettings} (hv : HttpSettings.ofToml? v = some h) :
    bindAddress.Reads (bindAddress.inSection? v) h.bind ∧ port.Reads (port.inSection? v) h.port ∧
      path.Reads (path.inSection? v) h.path ∧
      confirmTimeout.Reads (confirmTimeout.inSection? v) h.confirmTimeoutSeconds := by
  obtain ⟨fields, hfields, hv⟩ := Option.bind_eq_some_iff.1 hv
  obtain ⟨y₁, h₁, hv⟩ := Option.bind_eq_some_iff.1 hv
  obtain ⟨y₂, h₂, hv⟩ := Option.bind_eq_some_iff.1 hv
  obtain ⟨y₃, h₃, hv⟩ := Option.bind_eq_some_iff.1 hv
  obtain ⟨y₄, h₄, hv⟩ := Option.bind_eq_some_iff.1 hv
  cases hv
  exact ⟨bindAddress.reads_inSection? hfields h₁, port.reads_inSection? hfields h₂,
    path.reads_inSection? hfields h₃, confirmTimeout.reads_inSection? hfields h₄⟩

theorem of_redis {r : RedisSettings} (hv : RedisSettings.ofToml? v = some r) :
    address.Reads (address.inSection? v) r.address ∧
      database.Reads (database.inSection? v) r.database := by
  obtain ⟨fields, hfields, hv⟩ := Option.bind_eq_some_iff.1 hv
  obtain ⟨y₁, h₁, hv⟩ := Option.bind_eq_some_iff.1 hv
  obtain ⟨y₂, h₂, hv⟩ := Option.bind_eq_some_iff.1 hv
  cases hv
  exact ⟨address.reads_inSection? hfields h₁, database.reads_inSection? hfields h₂⟩

theorem of_queue {q : Delivery} (hv : Delivery.ofToml? v = some q) :
    queueName.Reads (queueName.inSection? v) q.name ∧
      version.Reads (version.inSection? v) q.version := by
  obtain ⟨fields, hfields, hv⟩ := Option.bind_eq_some_iff.1 hv
  obtain ⟨y₁, h₁, hv⟩ := Option.bind_eq_some_iff.1 hv
  obtain ⟨y₂, h₂, hv⟩ := Option.bind_eq_some_iff.1 hv
  cases hv
  exact ⟨queueName.reads_inSection? hfields h₁, version.reads_inSection? hfields h₂⟩

theorem of_reconciler {r : ReconcilerSettings} (hv : ReconcilerSettings.ofToml? v = some r) :
    interval.Reads (interval.inSection? v) r.intervalSeconds ∧
      debug.Reads (debug.inSection? v) r.debug := by
  obtain ⟨fields, hfields, hv⟩ := Option.bind_eq_some_iff.1 hv
  obtain ⟨y₁, h₁, hv⟩ := Option.bind_eq_some_iff.1 hv
  obtain ⟨y₂, h₂, hv⟩ := Option.bind_eq_some_iff.1 hv
  cases hv
  exact ⟨interval.reads_inSection? hfields h₁, debug.reads_inSection? hfields h₂⟩

theorem of_intake {i : Intake} (hv : Intake.ofToml? v = some i) :
    buffer.Reads (buffer.inSection? v) i.buffer ∧
      submitTimeout.Reads (submitTimeout.inSection? v) i.submitTimeoutMs := by
  obtain ⟨fields, hfields, hv⟩ := Option.bind_eq_some_iff.1 hv
  obtain ⟨y₁, h₁, hv⟩ := Option.bind_eq_some_iff.1 hv
  obtain ⟨y₂, h₂, hv⟩ := Option.bind_eq_some_iff.1 hv
  cases hv
  exact ⟨buffer.reads_inSection? hfields h₁, submitTimeout.reads_inSection? hfields h₂⟩

/-! ### Documents -/

/-- **What a document says** of each setting is what is read of it. -/
theorem reads_of_document {e : Entries} {s : Settings} (h : Settings.ofEntries? e = some s) :
    ∀ x ∈ all, x.2.Reads (x.2.inDocument? e) (x.2.get s) := by
  obtain ⟨http, hhttp, h⟩ := Option.bind_eq_some_iff.1 h
  obtain ⟨redis, hredis, h⟩ := Option.bind_eq_some_iff.1 h
  obtain ⟨queue, hqueue, h⟩ := Option.bind_eq_some_iff.1 h
  obtain ⟨reconciler, hreconciler, h⟩ := Option.bind_eq_some_iff.1 h
  obtain ⟨intake, hintake, h⟩ := Option.bind_eq_some_iff.1 h
  cases h
  rw [forall_mem_all]
  refine ⟨bindAddress.reads_inDocument? (·.bind) hhttp rfl ?_,
    port.reads_inDocument? (·.port) hhttp rfl ?_, path.reads_inDocument? (·.path) hhttp rfl ?_,
    confirmTimeout.reads_inDocument? (·.confirmTimeoutSeconds) hhttp rfl ?_,
    address.reads_inDocument? (·.address) hredis rfl ?_,
    database.reads_inDocument? (·.database) hredis rfl ?_,
    queueName.reads_inDocument? (·.name) hqueue rfl ?_,
    version.reads_inDocument? (·.version) hqueue rfl ?_,
    interval.reads_inDocument? (·.intervalSeconds) hreconciler rfl ?_,
    debug.reads_inDocument? (·.debug) hreconciler rfl ?_,
    buffer.reads_inDocument? (·.buffer) hintake rfl ?_,
    submitTimeout.reads_inDocument? (·.submitTimeoutMs) hintake rfl ?_⟩
  · exact fun _ _ hv => (of_http hv).1
  · exact fun _ _ hv => (of_http hv).2.1
  · exact fun _ _ hv => (of_http hv).2.2.1
  · exact fun _ _ hv => (of_http hv).2.2.2
  · exact fun _ _ hv => (of_redis hv).1
  · exact fun _ _ hv => (of_redis hv).2
  · exact fun _ _ hv => (of_queue hv).1
  · exact fun _ _ hv => (of_queue hv).2
  · exact fun _ _ hv => (of_reconciler hv).1
  · exact fun _ _ hv => (of_reconciler hv).2
  · exact fun _ _ hv => (of_intake hv).1
  · exact fun _ _ hv => (of_intake hv).2

/-- **Flags** do to each setting what its own flag does. -/
theorem get_apply (f : ServerFlags) (s : Settings) :
    ∀ x ∈ all, x.2.get (f.apply s) = x.2.flag f (x.2.get s) := by
  rw [forall_mem_all]
  exact ⟨rfl, rfl, rfl, rfl, rfl, rfl, rfl, rfl, rfl, rfl, rfl, rfl⟩

/-- **Each setting** comes from its flag, the document and its default. -/
theorem effective_apply {e : Entries} {s : Settings} (h : Settings.ofEntries? e = some s)
    (f : ServerFlags) : ∀ x ∈ all, x.2.Effective f e (x.2.get (f.apply s)) := by
  intro x hx
  exact ⟨x.2.get s, reads_of_document h x hx, get_apply f s x hx⟩

example : port.Effective { port := some 80 } [] 80 :=
  ⟨3090, rfl, rfl⟩

end Setting

end AlertRelay
