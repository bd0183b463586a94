/-
AlertRelay/CommandLine/Watcher.lean

The command line of the watcher: where its monitors are written down.
-/
import AlertRelay.CommandLine.Value

namespace AlertRelay

/-- What the command line of the watcher says. -/
structure WatcherFlags where
  config : String := "checker.toml"
  debug : Bool := false
deriving DecidableEq, Repr

namespace WatcherFlags

/-- The command line of the watcher. -/
def commandLine : CommandLine WatcherFlags where
  flags := [
    { long := "config", short := some 'c',
      effect := Flag.path fun s f => { f with config := s } },
    { long := "debug", effect := .switch fun f => { f with debug := true } }]

/-- The flags that a command line gives. -/
def parse (words : List String) : Except UsageFault WatcherFlags :=
  commandLine.parse ∅ {} words

end WatcherFlags

end AlertRelay
