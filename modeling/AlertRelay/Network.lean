/-
AlertRelay/Network.lean

The network as seen from here.

Nothing is assumed about the network: whom one reaches, and who answers what, is a `Network`, and
everything that goes out takes one as a parameter.  So a statement about what the relay does holds
for every network, and whoever runs it brings one.  A network is seen by somebody who waits for some
time and no longer.  Where several wait for different times, each has his own.

One network is described here: the one of a machine without any (`Network.isolated`).  It still
finds out what an address is, so the faults differ.
-/
import AlertRelay.Queue
import AlertRelay.SystemFault
import AlertRelay.Url.Basic

namespace AlertRelay

/-- What goes wrong in the network. -/
inductive NetworkFault where
  /-- Nobody listens there. -/
  | refused
  /-- No way leads there. -/
  | unreachable
  /-- The address is none of this machine, or there is none from which to go there. -/
  | noAddress
  /-- Somebody else listens here. -/
  | inUse
  /-- The name cannot be looked up at the moment. -/
  | lookupFailed
  /-- The name is none. -/
  | unknownName
  /-- The name has a character in it that ends names. -/
  | brokenName
deriving DecidableEq, Repr

namespace NetworkFault

/-- The fault of the system behind a fault. -/
def system? : NetworkFault → Option SystemFault
  | .refused => some ⟨111, "ConnectionRefused", "Connection refused"⟩
  | .unreachable => some ⟨101, "NetworkUnreachable", "Network is unreachable"⟩
  | .noAddress => some ⟨99, "AddrNotAvailable", "Cannot assign requested address"⟩
  | .inUse => some ⟨98, "AddrInUse", "Address already in use"⟩
  | _ => none

/-- A fault in words. -/
def message (f : NetworkFault) : String :=
  match f.system?, f with
  | some system, _ => system.message
  | none, .lookupFailed =>
    "failed to lookup address information: Temporary failure in name resolution"
  | none, .unknownName => "failed to lookup address information: Name or service not known"
  | none, _ => "file name contained an unexpected NUL byte"

end NetworkFault

/-- Whether it was the name that led nowhere. -/
def NetworkFault.isOfName : NetworkFault → Bool
  | .lookupFailed => true
  | .unknownName => true
  | .brokenName => true
  | _ => false

/-- How a server is asked. -/
inductive AskMethod where
  /-- For the answer. -/
  | get
  /-- For the status of the answer only. -/
  | head
deriving DecidableEq, Repr

/-- The answer of a server. -/
structure Reply where
  code : Nat
  /-- The server's own name for the code. -/
  reason : String
  /-- Where the answer came from in the end. -/
  url : Url
deriving DecidableEq, Repr

/-- Why there was no connection, or no answer. -/
inductive AskFault where
  | connect (f : NetworkFault)
  /-- It took too long. -/
  | timedOut
deriving DecidableEq, Repr

/-- A server of lists. -/
structure ListServer where
  host : String
  port : UInt16
  database : Int64
deriving DecidableEq, Repr

/-- What becomes of everything that goes out. -/
structure Network where
  /-- A connection to a port of a host. -/
  connect : (host : String) → (port : UInt16) → Except AskFault Unit
  /-- The answer of a server, when all redirections have been followed. -/
  ask : AskMethod → Url → Except AskFault Reply
  /-- The lists of a server. -/
  lists : ListServer → Except QueueFault Queue
  /-- A port of this machine, to listen at. -/
  listen : Host → (port : UInt16) → Except NetworkFault Unit

/-! ### A machine without a network -/

namespace Hostname

/-- Whether a character can stand in a name that is looked up. -/
def canStand (c : Char) : Bool :=
  c.isAlphanum || c = '-' || c = '_'

/-- Whether some characters are a label of such a name. -/
def isLabel (cs : List Char) : Bool :=
  cs.all canStand && cs.head?.any (· ≠ '-') && cs.length ≤ 63

/-- Whether a text can be looked up as a name.  A dot at its end does not matter. -/
def isName (s : String) : Bool :=
  let labels := Domain.labels s.toList
  match labels.reverse with
  | [] :: before => s = "." || before ≠ [] && before.all isLabel
  | all => all.all isLabel

/-- The names of the machine itself. -/
def own : List String := ["localhost"]

end Hostname

namespace Network

/-- Whether an address of sixteen bytes is one of four bytes in disguise. -/
def isMapped (groups : List Nat) : Bool :=
  groups.take 6 = [0, 0, 0, 0, 0, 0xffff]

/-- Why nobody is reached at an address of sixteen bytes. -/
def isolationOf (groups : List Nat) : NetworkFault :=
  if isMapped groups then .unreachable else .noAddress

/-- Why nobody is reached at a host from a machine without a network. -/
def isolation (host : String) : NetworkFault :=
  let cs := host.toList
  if cs.contains '\x00' then .brokenName
  else if let some groups := Ip.v6? cs then isolationOf groups
  else if Domain.labels cs = Ip.parts cs && (Ip.v4? cs).isSome then .unreachable
  else if Hostname.own.contains host.toLower then .unreachable
  else if Hostname.isName host then .lookupFailed
  else .unknownName

/-- The text of a host that is looked up. -/
def hostName : Host → String
  | .name s => s
  | .v4 a => Ip.v4Text a
  | .v6 gs => Ip.v6Text gs

/-- Whether a machine without a network can listen at an address: at any of four bytes, and at the
one of sixteen that stands for all. -/
def isOwn : Host → Bool
  | .name _ => false
  | .v4 _ => true
  | .v6 groups => isMapped groups || groups.all (· = 0)

/-- The network of a machine without any. -/
def isolated : Network where
  connect host _ := .error (.connect (isolation host))
  ask _ url := .error (.connect (isolation (hostName (url.host?.getD (.name "")))))
  lists server := .error (.connection (isolation server.host).message)
  listen host _ := if isOwn host then .ok () else .error .noAddress

end Network

end AlertRelay
