/-
AlertRelay/Settings/Basic.lean

What can be set.

Every setting has a value from the start, so a relay runs without being told anything.  Settings
come in five sections; each section is what one part of the relay looks at.
-/
import AlertRelay.Address
import AlertRelay.Delivery
import AlertRelay.Files.Disk
import AlertRelay.Store

namespace AlertRelay

/-- Where states are received. -/
structure HttpSettings where
  bind : String := "0.0.0.0"
  port : UInt16 := 3090
  /-- The path under which states are posted and shown. -/
  path : String := "/state"
  /-- How long the confirmation of a subscription may take. -/
  confirmTimeoutSeconds : UInt64 := 10
deriving DecidableEq, Repr

/-- The server that holds the lists. -/
structure RedisSettings where
  address : String := "localhost:6380"
  database : Int64 := 0
deriving DecidableEq, Repr

/-- When everything cached is sent. -/
structure ReconcilerSettings where
  intervalSeconds : UInt64 := 10
  /-- Whether every event is named in the log. -/
  debug : Bool := false
deriving DecidableEq, Repr

/-- Everything that can be set. -/
structure Settings where
  http : HttpSettings := {}
  redis : RedisSettings := {}
  queue : Delivery := {}
  reconciler : ReconcilerSettings := {}
  intake : Intake := {}
deriving DecidableEq, Repr

/-- How long a confirmation may take. -/
def HttpSettings.confirmTimeout (h : HttpSettings) : Duration :=
  .ofSeconds h.confirmTimeoutSeconds.toNat

/-- The address of the lists, with the number of the database. -/
def RedisSettings.url (r : RedisSettings) : String :=
  "redis://" ++ r.address ++ "/" ++ toString r.database.toInt

/-- The time between two ticks: a second at least. -/
def ReconcilerSettings.interval (r : ReconcilerSettings) : Duration :=
  .ofSeconds (max r.intervalSeconds.toNat 1)

/-! ### Faults -/

/-- What can be wrong with settings. -/
inductive SettingsFault where
  | readFailed (f : FileFault)
  | writeFailed (f : FileFault)
  /-- The file is no document, or a value in it has the wrong type. -/
  | parseFailed
  /-- A number is too large for a document. -/
  | serializeFailed
  /-- Nobody says where the file is. -/
  | pathUnavailable
  | invalidAddress (text : String)
  | invalidDuration (text : String)
deriving DecidableEq, Repr

/-- A fault in words. -/
def SettingsFault.message : SettingsFault → String
  | .readFailed f => "Couldn't read config file: " ++ f.message
  | .writeFailed f => "Couldn't write config file: " ++ f.message
  | .parseFailed => "Couldn't parse config file"
  | .serializeFailed => "Couldn't serialize config"
  | .pathUnavailable => "No config directory available (set XDG_CONFIG_HOME or HOME)"
  | .invalidAddress text =>
    "Invalid address `" ++ text ++ "`, should be in format `host:port` (e.g. 127.0.0.1:6380)"
  | .invalidDuration text =>
    "Invalid duration `" ++ text ++ "`, expected e.g. `10s`, `500ms`, `5m` or `1h`"

/-- The address that a text spells. -/
def readAddress (text : String) : Except SettingsFault Address :=
  match Address.parse? text with
  | some a => .ok a
  | none => .error (.invalidAddress text)

/-- Why a text is not read as a span of time. -/
inductive SpanFault where
  /-- It is refused. -/
  | refused (f : SettingsFault)
  /-- Its seconds do not fit into a word, and the program breaks off. -/
  | overflow
deriving DecidableEq, Repr

/-- The span of time that a text spells; blanks around it do not count. -/
def readDuration (text : String) : Except SpanFault Duration :=
  match Duration.parse (trimmed text) with
  | .ok d => .ok d
  | .error .malformed => .error (.refused (.invalidDuration (trimmed text)))
  | .error .overflow => .error .overflow

/-! ### Showing -/

/-- A line of one setting. -/
def shownSetting (label value : String) : String :=
  "    " ++ label ++ ": " ++ value ++ "\n"

/-- The settings as they are shown. -/
def Settings.text (s : Settings) : String :=
  "Current Broker Configuration:\n" ++
  "  HTTP\n" ++
  shownSetting "Bind Address" s.http.bind ++
  shownSetting "Port" (toString s.http.port) ++
  shownSetting "Path" s.http.path ++
  "  Redis\n" ++
  shownSetting "Address" s.redis.address ++
  shownSetting "Database" (toString s.redis.database.toInt) ++
  "  Queue\n" ++
  shownSetting "Name" s.queue.name ++
  shownSetting "Protocol Version" (toString s.queue.version) ++
  "  Reconciler\n" ++
  shownSetting "Interval (s)" (toString s.reconciler.intervalSeconds) ++
  shownSetting "Debug" (if s.reconciler.debug then "true" else "false") ++
  "  Intake\n" ++
  shownSetting "Buffer" (toString s.intake.buffer) ++
  shownSetting "Submit Timeout (ms)" (toString s.intake.submitTimeoutMs)

end AlertRelay
