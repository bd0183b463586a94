/-
AlertRelay/Probe/Finding.lean

What a probe has found.

A monitor looks at a target again and again, and every look is a finding: the target was up or
down, with a message and the time that it took to find out.  A finding becomes an event about the
host that was looked at, so there has to be one.
-/
import AlertRelay.Event
import AlertRelay.Url.Reader

namespace AlertRelay

/-- How a target is looked at. -/
inductive ProbeKind where
  /-- A request for the target, which is a URL. -/
  | httpStatus
  /-- A connection to the target, which is a host and a port. -/
  | tcp
deriving DecidableEq, Repr

namespace ProbeKind

/-- The name of a kind. -/
def name : ProbeKind → String
  | .httpStatus => "http-status"
  | .tcp => "tcp"

/-- The kind with a name. -/
def ofName? (s : String) : Option ProbeKind :=
  [httpStatus, tcp].find? fun k => k.name = s

end ProbeKind

/-- Why a target is at no host. -/
inductive HostFault where
  | badUrl (f : UrlFault)
  /-- The URL names no host. -/
  | noHost (target : String)
  /-- There is no colon. -/
  | noPort (target : String)
deriving DecidableEq, Repr

/-- A fault in words. -/
def HostFault.message : HostFault → String
  | .badUrl f => f.message
  | .noHost target => target ++ " has no host"
  | .noPort target => target ++ " is not host:port"

/-- What stands before and after the last colon of a text. -/
def splitLastColon? (s : String) : Option (String × String) :=
  let back := s.toList.reverse
  match back.dropWhile (· ≠ ':') with
  | [] => none
  | _ :: before =>
    some (String.ofList before.reverse, String.ofList (back.takeWhile (· ≠ ':')).reverse)

/-- What a probe has found. -/
structure Finding where
  /-- The name of the monitor. -/
  monitor : String
  kind : ProbeKind
  target : String
  /-- When the probe began. -/
  time : Int64
  up : Bool
  message : String
  latencyMs : UInt64
deriving DecidableEq, Repr

namespace Finding

/-- The host of a URL, with its port unless that is the usual one. -/
def urlHost (target : String) : Except HostFault String :=
  match Url.parse target with
  | .error f => .error (.badUrl f)
  | .ok url =>
    match url.host?, url.port? with
    | none, _ => .error (.noHost target)
    | some host, none => .ok host.text
    | some host, some port => .ok (host.text ++ ":" ++ toString port)

/-- The host that was looked at. -/
def entity (f : Finding) : Except HostFault String :=
  match f.kind with
  | .httpStatus => urlHost f.target
  | .tcp =>
    match splitLastColon? f.target with
    | some (host, _) => .ok host
    | none => .error (.noPort f.target)

/-- The state of the target. -/
def state (f : Finding) : String :=
  if f.up then "ok" else "critical"

/-- The message, with the time that it took. -/
def summary (f : Finding) : String :=
  f.message ++ " [" ++ toString f.latencyMs ++ "ms]"

/-- The event about a finding. -/
def event (f : Finding) : Except HostFault Event :=
  f.entity.map fun entity => Event.service entity f.monitor f.state f.summary f.time

end Finding

end AlertRelay
