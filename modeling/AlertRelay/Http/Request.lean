/-
AlertRelay/Http/Request.lean

Asking servers.

Only two schemes can be asked for, and only at a host.  In whose name somebody asks is told to the
server, but kept out of complaints.

A fault has causes, the first of which says what did not work and the last what stood in the way.
-/
import AlertRelay.Http.Status
import AlertRelay.Network
import AlertRelay.Url.Reader

namespace AlertRelay

/-- Why a request brought nothing. -/
inductive RequestFault where
  /-- What was to be asked for is no URL. -/
  | badUrl (f : UrlFault)
  /-- It is one that cannot be asked for. -/
  | badScheme (url : Url)
  /-- The server has no name that can be sent. -/
  | badHost (url : Url)
  | failed (url : Url) (f : AskFault)
  /-- The answer was a refusal. -/
  | refused (r : Reply)
deriving DecidableEq, Repr

namespace RequestFault

/-- The words for a URL at the end of a complaint. -/
def forUrl (url : Url) : String :=
  " for url (" ++ url.text ++ ")"

/-- The causes of a failure, beyond the request itself. -/
def failureCauses : AskFault → List String
  | .connect f =>
    ["client error (Connect)", if f.isOfName then "dns error" else "tcp connect error", f.message]
  | .timedOut => ["operation timed out"]

/-- Who is blamed for a refusal. -/
def blamed (code : Nat) : String :=
  if Status.isClientFault code then "client" else "server"

/-- The causes of a fault, the outermost first. -/
def causes : RequestFault → List String
  | .badUrl f => ["builder error", f.message]
  | .badScheme url => ["builder error" ++ forUrl url, "URL scheme is not allowed"]
  | .badHost url => ["builder error" ++ forUrl url, "Parsed Url is not a valid Uri"]
  | .failed url f => ("error sending request" ++ forUrl url) :: failureCauses f
  | .refused r =>
    ["HTTP status " ++ blamed r.code ++ " error (" ++ toString r.code ++ " " ++ r.reason ++ ")" ++
      forUrl r.url]

/-- What did not work. -/
def message (f : RequestFault) : String :=
  f.causes.headD ""

end RequestFault

namespace Network

/-- The schemes that can be asked for. -/
def askable : List String := ["http", "https"]

/-- Whether the name of a host can be sent. -/
def canSend (h : Host) : Bool :=
  h.text.toList.all fun c => ! ['"', '\x60', '\x7b', '\x7d'].contains c

/-- The URL that a text asks for. -/
def target (text : String) : Except RequestFault Url :=
  match Url.parse text with
  | .error f => .error (.badUrl f)
  | .ok url =>
    match url.host? with
    | none => .error (.badScheme url)
    | some host =>
      if !askable.contains url.scheme then .error (.badScheme url.withoutUser)
      else if !canSend host then .error (.badHost url.withoutUser)
      else .ok url

/-- Asks for the URL that a text spells. -/
def request (n : Network) (method : AskMethod) (text : String) : Except RequestFault Reply := do
  let url ← target text
  match n.ask method url with
  | .ok reply => .ok reply
  | .error f => .error (.failed url.withoutUser f)

/-- Asks for the URL that a text spells, and takes no refusal for an answer. -/
def fetch (n : Network) (text : String) : Except RequestFault Reply := do
  let reply ← n.request .get text
  if Status.isClientFault reply.code || Status.isServerFault reply.code then
    .error (.refused reply)
  else .ok reply

end Network

end AlertRelay
