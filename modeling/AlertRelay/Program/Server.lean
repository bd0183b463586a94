/-
AlertRelay/Program/Server.lean

The server: takes states, shows them, and hands them over at every tick.

Before it listens it reads its settings, reaches the lists unless events stay in memory, and makes
sure that it can listen where it is told to.
-/
import AlertRelay.CommandLine.Server
import AlertRelay.ListServer
import AlertRelay.Program.Ending
import AlertRelay.Server.Response
import AlertRelay.Tick

namespace AlertRelay

/-- Why the server does not get to work. -/
inductive ServerFault where
  | settings (f : SettingsFault)
  | lists (f : QueueFault)
  /-- It is told to listen at something that is no address. -/
  | badBind
  | listen (f : NetworkFault)
deriving DecidableEq

/-- A fault with its parts. -/
def ServerFault.parts : ServerFault → String
  | .settings f => inParentheses "Config" f.parts
  | .lists f => inParentheses "Transport" f.parts
  | .badBind => inParentheses "AddrParse" (inParentheses "AddrParseError" "Socket")
  | .listen f => inParentheses "Io" f.parts

/-- A server at work. -/
structure Serving where
  settings : Settings
  relay : Relay

namespace Settings

/-- The address that the server listens at. -/
def bindHost? (s : Settings) : Option Host :=
  match s.http.bind.toList with
  | '[' :: rest =>
    match rest.reverse with
    | ']' :: back => (Ip.v6? back.reverse).map Host.v6
    | _ => none
  | cs => (Ip.plainV4? cs).map Host.v4

/-- The lists that events go to. -/
def lists (s : Settings) (n : Network) (inMemory : Bool) : Except QueueFault Queue :=
  if inMemory then .ok {} else s.redis.connect n

/-- Gets to work. -/
def serve (s : Settings) (n : Network) (inMemory : Bool) : Except ServerFault Serving := do
  let queue ← (s.lists n inMemory).mapError ServerFault.lists
  match s.bindHost? with
  | none => .error .badBind
  | some host =>
    (n.listen host s.http.port).mapError ServerFault.listen
    pure {
      settings := s
      relay := { store := (Store.ofIntake s.intake).start, queue, delivery := s.queue } }

end Settings

/-- What the server comes to: it does not get to work, or it does and works until somebody
interrupts. -/
def server (words : List String) (env : Environment) (d : Disk) (n : Network) :
    Except Ending Serving × Disk :=
  match ServerFlags.parse (env.withFile d) words with
  | .error f => (.error (.ofUsage f), d)
  | .ok f =>
    match f.load d with
    | (.error fault, d) => (.error (.failed (ServerFault.settings fault).parts), d)
    | (.ok s, d) => ((s.serve n f.dryRun).mapError fun fault => .failed fault.parts, d)

end AlertRelay
