/-
AlertRelay/Server/Response.lean

How the server answers.

Senders do not look at the status of an answer to what they post, so it is always 200: a fault is
told in the text.  The states are shown as JSON.  Whether the server is well shows in a status
alone.
-/
import AlertRelay.Server.Post
import AlertRelay.Server.Route
import AlertRelay.Settings.Basic

namespace AlertRelay

/-- A request. -/
structure Request where
  method : String := "POST"
  target : String
  body : Body := { chunks := [] }
deriving DecidableEq, Repr

/-- An answer. -/
structure Response where
  status : Nat := 200
  /-- What the text is. -/
  type : Option String := none
  text : String := ""
deriving DecidableEq, Repr

namespace Response

/-- An answer that is a status. -/
def bare (status : Nat) : Response :=
  { status }

/-- An answer for humans. -/
def plain (text : String) : Response :=
  { type := some "text/plain; charset=utf-8", text }

/-- The answer to a posted body. -/
def ofPost : PostResult → Response
  | .cached s => plain ("Caching state: " ++ s.json ++ "\n")
  | .confirmed => bare 200
  | .refused f => plain ("Error: " ++ f.message ++ "\n")

/-- The answer to a question for the states; none while nobody shows them. -/
def ofStates : Call States → Option Response
  | .ended (.ok states) => some { type := some "application/json", text := states.json }
  | .ended (.error e) => some { status := 503, text := e.message }
  | .waiting => none

/-- The answer to a question whether the server is well. -/
def ofHealth (s : Store) : Response :=
  bare (if s.isClosed then 503 else 200)

end Response

/-! ### Answering -/

/-- Where it is asked whether the server is well. -/
def healthPath : String := "/health"

/-- A request that has been dealt with. -/
structure Answered where
  /-- The answer, unless it is still waited for. -/
  response : Option Response
  /-- The store afterwards. -/
  store : Store
  /-- What was asked for in the network. -/
  asked : Option String := none

/-- Answers a request that arrives at some time.  The states are at some path; `moments` are what
others do while there is no room in the intake. -/
def Store.answer (s : Store) (path : String) (n : Network) (now : Int64)
    (moments : List Store.Action) (r : Request) : Answered :=
  if Route.isAt healthPath r.target && r.method = "GET" then ⟨some (.ofHealth s), s, none⟩
  else if !Route.isAt path r.target then ⟨some (.bare 404), s, none⟩
  else if r.method = "POST" then
    let p := s.post n now moments r.body
    ⟨some (.ofPost p.result), p.store, p.asked⟩
  else if r.method = "GET" then
    let (c, s) := s.snapshot moments
    ⟨Response.ofStates c, s, none⟩
  else ⟨some (.bare 405), s, none⟩

end AlertRelay
