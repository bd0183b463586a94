/-
AlertRelay/Probe/Check.lean

Looking at a target.

A URL is up if the answer to a request for it is 200 and nothing else.  A host and a port are up if
a connection can be made.  A target that is down has causes, the outermost first.

A monitor has a time for each look, so it is told what somebody sees of the network who waits that
long.
-/
import AlertRelay.Duration
import AlertRelay.Http.Request
import AlertRelay.Number.Decimal
import AlertRelay.Probe.Finding

namespace AlertRelay

/-- What a look at a target brings: a message if it is up, or the causes why it is not. -/
abbrev Outcome := Except (List String) String

namespace ProbeKind

/-- Looks at a URL. -/
def checkHttp (n : Network) (target : String) : Outcome :=
  match n.request .head target with
  | .error f => .error f.causes
  | .ok reply =>
    if reply.code = 200 then .ok "Http status code is 200"
    else .error ["Http status is " ++ Status.text reply.code]

/-- The host and the port that a text names. -/
def socket (target : String) : Except String (String × UInt16) :=
  match splitLastColon? target with
  | none => .error "invalid socket address"
  | some (host, port) =>
    match Decimal.unsigned? 65535 port.toList with
    | none => .error "invalid port value"
    | some port => .ok (unbracketed host, UInt16.ofNat port)
where
  /-- An address of sixteen bytes without its brackets. -/
  unbracketed (host : String) : String :=
    match host.toList, host.toList.reverse with
    | '[' :: rest, ']' :: _ =>
      if (Ip.v6? rest.dropLast).isSome then String.ofList rest.dropLast else host
    | _, _ => host

/-- Looks at a host and a port. -/
def checkTcp (n : Network) (target : String) : Outcome :=
  match socket target with
  | .error text => .error ["TCP connection failed: " ++ text]
  | .ok (host, port) =>
    match n.connect host port with
    | .ok () => .ok "TCP port is open"
    | .error (.connect f) => .error ["TCP connection failed: " ++ f.message]
    | .error .timedOut => .error ["TCP connection timeout"]

/-- Looks at a target. -/
def check (k : ProbeKind) (n : Network) (target : String) : Outcome :=
  match k with
  | .httpStatus => checkHttp n target
  | .tcp => checkTcp n target

end ProbeKind

/-- What is looked at again and again. -/
structure Monitor where
  name : String
  kind : ProbeKind
  target : String
  /-- The time from one look to the next. -/
  interval : Duration
  /-- How long a look may take. -/
  timeout : Duration
deriving DecidableEq, Repr

/-- Looks at its target, in a network of which everybody sees something who waits for some time. -/
def Monitor.look (m : Monitor) (n : (patience : Duration) → Network) : Outcome :=
  m.kind.check (n m.timeout) m.target

/-- The finding that an outcome makes, with the time at which the look began and how long it took.
-/
def Monitor.finding (m : Monitor) (time : Int64) (latencyMs : UInt64) (o : Outcome) : Finding where
  monitor := m.name
  kind := m.kind
  target := m.target
  time := time
  up := o.isOk
  message := match o with
    | .ok message => message
    | .error causes => ": ".intercalate causes
  latencyMs := latencyMs

end AlertRelay
