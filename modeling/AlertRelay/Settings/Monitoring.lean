/-
AlertRelay/Settings/Monitoring.lean

What is monitored.

A document of these settings names the lists to which findings go and the monitors.  Every monitor
has its own interval and may have a timeout; both have to be spans of time, also for a monitor that
is switched off.  A span whose seconds do not fit into a word breaks everything off.
-/
import AlertRelay.Probe.Check
import AlertRelay.Settings.Document

namespace AlertRelay

/-- A monitor as it is written down. -/
structure MonitorSettings where
  kind : ProbeKind
  name : String
  url : String
  /-- The time from one look to the next. -/
  freq : String
  timeout : Option String := none
  enabled : Bool := true
deriving DecidableEq, Repr

/-- Everything that a document of monitors sets. -/
structure MonitoringSettings where
  redis : RedisSettings := {}
  queue : Delivery := {}
  monitors : List MonitorSettings := []
deriving DecidableEq, Repr

/-! ### Faults -/

/-- The two spans of time of a monitor. -/
inductive MonitorSpan where
  | freq
  | timeout
deriving DecidableEq, Repr

/-- The name of a span. -/
def MonitorSpan.name : MonitorSpan → String
  | .freq => "freq"
  | .timeout => "timeout"

/-- What can be wrong with these settings. -/
inductive MonitoringFault where
  | unreadable (path : String) (f : FileFault)
  | unparsable (path : String)
  | badAddress (f : SettingsFault)
  | noMonitors
  | badSpan (monitor : String) (span : MonitorSpan) (f : SettingsFault)
  /-- The seconds of a span do not fit into a word. -/
  | overflow
deriving DecidableEq, Repr

/-- What is wrong with a span of a monitor. -/
def MonitoringFault.ofSpan (monitor : String) (span : MonitorSpan) : SpanFault → MonitoringFault
  | .refused f => .badSpan monitor span f
  | .overflow => .overflow

/-- The causes of a fault, the outermost first; nobody is there to tell any when it breaks
everything off. -/
def MonitoringFault.causes : MonitoringFault → List String
  | .unreadable path f => ["couldn't read " ++ path, f.message]
  | .unparsable path => ["couldn't parse " ++ path]
  | .badAddress f => [f.message]
  | .noMonitors => ["no monitors configured"]
  | .badSpan monitor span f => ["monitor \x60" ++ monitor ++ "\x60: bad " ++ span.name, f.message]
  | .overflow => []

/-! ### Reading -/

namespace Toml

/-- Whether a value has nothing in it. -/
def isEmpty : Toml → Bool
  | .array [] => true
  | .table _ [] => true
  | .tables [] => true
  | _ => false

/-- One of several names: a text, or a table with an empty value under the name. -/
def choice? : Toml → Option String
  | .string s => some s
  | .table _ [(name, v)] => if v.isEmpty then some name else none
  | _ => none

end Toml

open Toml

/-- A kind of probe in a document. -/
def ProbeKind.ofToml? (v : Toml) : Option ProbeKind :=
  v.choice?.bind ProbeKind.ofName?

/-- A monitor in a document. -/
def MonitorSettings.ofToml? (v : Toml) : Option MonitorSettings := do
  let e ← v.fields? ["type", "name", "url", "freq", "timeout", "enabled"]
  let kind ← field? e "type" ProbeKind.ofToml?
  let name ← field? e "name" text?
  let url ← field? e "url" text?
  let freq ← field? e "freq" text?
  let timeout ←
    if v.items?.isSome then field? e "timeout" fun v => v.text?.map some
    else fieldOr e "timeout" (fun v => v.text?.map some) none
  let enabled ← fieldOr e "enabled" bool? true
  pure { kind, name, url, freq, timeout, enabled }

/-- The monitors in a document. -/
def MonitorSettings.listOfToml? (v : Toml) : Option (List MonitorSettings) := do
  (← v.items?).mapM MonitorSettings.ofToml?

/-- The settings of a document. -/
def MonitoringSettings.ofEntries? (e : Entries) : Option MonitoringSettings := do
  let redis ← fieldOr e "redis" RedisSettings.ofToml? {}
  let queue ← fieldOr e "queue" Delivery.ofToml? {}
  let monitors ← fieldOr e "monitors" MonitorSettings.listOfToml? []
  pure { redis, queue, monitors }

/-! ### Checking -/

namespace MonitorSettings

/-- The timeout of a monitor that sets none. -/
def usualTimeout : Duration :=
  .ofSeconds 60

/-- The time from one look to the next. -/
def interval (m : MonitorSettings) : Except MonitoringFault Duration :=
  (readDuration m.freq).mapError (.ofSpan m.name .freq)

/-- How long a look may take. -/
def timeoutSpan (m : MonitorSettings) : Except MonitoringFault Duration :=
  match m.timeout with
  | none => .ok usualTimeout
  | some text => (readDuration text).mapError (.ofSpan m.name .timeout)

/-- Looks at both spans of a monitor. -/
def check (m : MonitorSettings) : Except MonitoringFault Unit := do
  let _ ← m.interval
  let _ ← m.timeoutSpan

/-- The monitor that is set. -/
def monitor (m : MonitorSettings) : Except MonitoringFault Monitor := do
  let timeout ← m.timeoutSpan
  let interval ← m.interval
  pure { name := m.name, kind := m.kind, target := m.url, interval, timeout }

end MonitorSettings

namespace MonitoringSettings

/-- Looks at the address and at every monitor, of which there has to be one. -/
def check (s : MonitoringSettings) : Except MonitoringFault Unit := do
  let _ ← (readAddress s.redis.address).mapError MonitoringFault.badAddress
  if s.monitors = [] then .error .noMonitors
  s.monitors.forM MonitorSettings.check

/-- The settings of a file. -/
def load (path : String) (d : Disk) : Except MonitoringFault MonitoringSettings := do
  let text ← (d.readText path).mapError (.unreadable path)
  match (Toml.parse? text).bind ofEntries? with
  | none => .error (.unparsable path)
  | some s =>
    s.check
    pure s

/-- The monitors that are not switched off. -/
def monitors? (s : MonitoringSettings) : Except MonitoringFault (List Monitor) :=
  (s.monitors.filter (·.enabled)).mapM MonitorSettings.monitor

end MonitoringSettings

end AlertRelay
