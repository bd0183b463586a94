/-
AlertRelay/Program/Watcher.lean

The watcher: looks at targets and hands over what it finds.
-/
import AlertRelay.CommandLine.Watcher
import AlertRelay.ListServer
import AlertRelay.Probe.Notify
import AlertRelay.Program.Ending
import AlertRelay.Settings.Monitoring

namespace AlertRelay

/-- A watcher at work. -/
structure Watching where
  monitors : List Monitor
  delivery : Delivery
  queue : Queue

/-- Why a watcher does not get to work. -/
inductive WatcherFault where
  | settings (f : MonitoringFault)
  | connect (address : String) (f : QueueFault)
deriving DecidableEq

/-- What stood in the way of a queue. -/
def QueueFault.cause : QueueFault → List String
  | .connection text => [text]
  | .unavailable _ => []

/-- The causes of a fault, the outermost first. -/
def WatcherFault.causes : WatcherFault → List String
  | .settings f => f.causes
  | .connect address f => ("couldn't connect to Redis at " ++ address) :: f.message :: f.cause

/-- How the watcher ends that does not get to work. -/
def WatcherFault.ending : WatcherFault → Ending
  | .settings .overflow => .brokenOff
  | f => .failed (toldCauses f.causes)

namespace WatcherFlags

/-- Gets to work. -/
def start (f : WatcherFlags) (d : Disk) (n : Network) : Except WatcherFault Watching := do
  let s ← (MonitoringSettings.load f.config d).mapError WatcherFault.settings
  let queue ← (s.redis.connect n).mapError (WatcherFault.connect s.redis.address)
  let monitors ← s.monitors?.mapError WatcherFault.settings
  pure { monitors, delivery := s.queue, queue }

end WatcherFlags

/-- The watcher, with what its monitors find before somebody interrupts; the queue, if it was
reached. -/
def watcher (words : List String) (d : Disk) (n : Network)
    (findings : List Monitor → List Finding) : Ending × Option Queue :=
  match WatcherFlags.parse words with
  | .error f => (.ofUsage f, none)
  | .ok f =>
    match f.start d n with
    | .error fault => (fault.ending, none)
    | .ok w => ({}, some (w.delivery.notify (findings w.monitors) w.queue))

end AlertRelay
