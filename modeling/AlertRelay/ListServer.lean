/-
AlertRelay/ListServer.lean

Which server of lists the settings name.

The settings are turned into a URL, and the server is the one that the URL names: its host, its port
or the usual one, and the database that is its path.
-/
import AlertRelay.Network
import AlertRelay.Settings.Basic
import AlertRelay.Url.Reader

namespace AlertRelay

namespace ListServer

/-- The usual port. -/
def usualPort : UInt16 := 6379

/-- A complaint about the settings. -/
def badSettings (text : String) : QueueFault :=
  .connection (text ++ "- InvalidClientConfig")

/-- A text without slashes around it. -/
def withoutSlashes (cs : List Char) : List Char :=
  ((cs.dropWhile (· = '/')).reverse.dropWhile (· = '/')).reverse

/-- The database that the path of a URL names; none is the first one. -/
def database? (path : String) : Option Int64 :=
  match withoutSlashes path.toList with
  | [] => some 0
  | cs => (Decimal.signed? Int64.minValue.toInt Int64.maxValue.toInt cs).map Int64.ofInt

/-- The server that a text names as a URL. -/
def ofUrl (text : String) : Except QueueFault ListServer :=
  match Url.parse text with
  | .error _ => .error (badSettings "Redis URL did not parse")
  | .ok url =>
    match url.host?, database? url.path.text with
    | none, _ => .error (badSettings "Missing hostname")
    | some _, none => .error (badSettings "Invalid database number")
    | some host, some database =>
      .ok ⟨Network.hostName host, url.port?.getD usualPort, database⟩

end ListServer

/-- The lists of the server that the settings name. -/
def RedisSettings.connect (r : RedisSettings) (n : Network) : Except QueueFault Queue := do
  n.lists (← ListServer.ofUrl r.url)

end AlertRelay
