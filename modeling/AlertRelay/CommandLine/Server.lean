/-
AlertRelay/CommandLine/Server.lean

The command line of the server, and the settings that follow from it.

Settings come from three sources, the later ones stronger: the defaults, the file that is named,
the flags.  Without a file no disk is touched; a file is read, or written if it is not there, but
never changed, and what is written are the defaults and not the flags.
-/
import AlertRelay.CommandLine.Value
import AlertRelay.Settings.File

namespace AlertRelay

/-- What the command line of the server says. -/
structure ServerFlags where
  config : Option String := none
  port : Option UInt16 := none
  bind : Option String := none
  path : Option String := none
  server : Option String := none
  database : Option Int64 := none
  interval : Option Duration := none
  queue : Option String := none
  protocolVersion : Option UInt8 := none
  debug : Bool := false
  /-- Whether events stay in memory. -/
  dryRun : Bool := false
deriving DecidableEq, Repr

namespace ServerFlags

/-- The command line of the server. -/
def commandLine : CommandLine ServerFlags where
  flags := [
    { long := "config", short := some 'c',
      effect := Flag.path fun s f => { f with config := some s } },
    { long := "port", short := some 'p', standIn := some "PORT",
      effect := Flag.uint16 fun n f => { f with port := some n } },
    { long := "bind", effect := Flag.text fun s f => { f with bind := some s } },
    { long := "path", effect := Flag.text fun s f => { f with path := some s } },
    { long := "server", short := some 's',
      effect := Flag.text fun s f => { f with server := some s } },
    { long := "database", short := some 'd',
      effect := Flag.int64 fun n f => { f with database := some n } },
    { long := "interval", short := some 'i',
      effect := Flag.duration fun d f => { f with interval := some d } },
    { long := "queue", short := some 'q',
      effect := Flag.text fun s f => { f with queue := some s } },
    { long := "protocol-version",
      effect := Flag.uint8 fun n f => { f with protocolVersion := some n } },
    { long := "debug", effect := .switch fun f => { f with debug := true } },
    { long := "dry-run", effect := .switch fun f => { f with dryRun := true } }]

/-- The flags that a command line gives. -/
def parse (env : Environment) (words : List String) : Except UsageFault ServerFlags :=
  commandLine.parse env {} words

/-- Settings with the flags that are given. -/
def apply (f : ServerFlags) (s : Settings) : Settings where
  http := { s.http with
    port := f.port.getD s.http.port
    bind := f.bind.getD s.http.bind
    path := f.path.getD s.http.path }
  redis := {
    address := f.server.getD s.redis.address
    database := f.database.getD s.redis.database }
  queue := {
    name := f.queue.getD s.queue.name
    version := f.protocolVersion.getD s.queue.version }
  reconciler := {
    intervalSeconds :=
      (f.interval.map fun d => UInt64.ofNat d.seconds).getD s.reconciler.intervalSeconds
    debug := s.reconciler.debug || f.debug }
  intake := s.intake

/-- The settings that the flags are applied to. -/
def base (f : ServerFlags) (d : Disk) : Except SettingsFault Settings × Disk :=
  match f.config with
  | none => (.ok {}, d)
  | some path => Settings.loadFrom (Path.withToml path) d

/-- The settings that follow from the flags.  The address has to be one. -/
def load (f : ServerFlags) (d : Disk) : Except SettingsFault Settings × Disk :=
  match f.base d with
  | (.error fault, d) => (.error fault, d)
  | (.ok s, d) =>
    match readAddress (f.apply s).redis.address with
    | .error fault => (.error fault, d)
    | .ok _ => (.ok (f.apply s), d)

end ServerFlags

end AlertRelay
