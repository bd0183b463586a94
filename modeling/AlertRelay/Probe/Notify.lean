/-
AlertRelay/Probe/Notify.lean

Handing findings over.

Findings are handed over in the order in which they arrive, each in one attempt.  One that is about
no host is passed over, and so is one that cannot be handed over.
-/
import AlertRelay.Delivery
import AlertRelay.Probe.Finding

namespace AlertRelay

namespace Delivery

/-- Hands over a finding, if it is about a host. -/
def notifyOne (d : Delivery) (q : Queue) (f : Finding) : Queue :=
  match f.event with
  | .error _ => q
  | .ok e => (d.send e q).2

/-- Hands over findings. -/
def notify (d : Delivery) (findings : List Finding) (q : Queue) : Queue :=
  findings.foldl d.notifyOne q

end Delivery

end AlertRelay
