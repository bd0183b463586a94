/-
AlertRelay/Server/Post.lean

What becomes of a posted body.

A body that means a state is cached under its key, and answered with the state.  One that means a
subscription is confirmed, by fetching what the body says; nothing is cached then.  Everything else
is a fault, and leaves the cache as it is.
-/
import AlertRelay.Http.Request
import AlertRelay.Payload
import AlertRelay.Server.Body
import AlertRelay.Store

namespace AlertRelay

/-- Why a posted body is not taken. -/
inductive PostFault where
  | body (f : BodyFault)
  | payload (r : Refusal)
  | confirmation (f : RequestFault)
  | store (e : StoreError)
deriving DecidableEq

/-- A fault in words. -/
def PostFault.message : PostFault → String
  | .body f => "Couldn't read request body: " ++ f.message
  | .payload r => r.message
  | .confirmation f => "Couldn't confirm subscription: " ++ f.message
  | .store e => e.message

/-- What a posted body comes to. -/
inductive PostResult where
  | cached (s : CachedState)
  | confirmed
  | refused (f : PostFault)
deriving DecidableEq

/-- A posted body that has been dealt with. -/
structure Posted where
  result : PostResult
  /-- The store afterwards. -/
  store : Store
  /-- What was asked for in the network. -/
  asked : Option String := none

namespace Store

/-- Caches a state that was posted. -/
def cachePosted (s : Store) (state : CachedState) (moments : List Action) : Posted :=
  match s.upsert state moments with
  | (.ok (), s) => { result := .cached state, store := s }
  | (.error e, s) => { result := .refused (.store e), store := s }

/-- Fetches what confirms a subscription. -/
def confirmPosted (s : Store) (n : Network) (url : String) : Posted :=
  match n.fetch url with
  | .ok _ => { result := .confirmed, store := s, asked := some url }
  | .error f => { result := .refused (.confirmation f), store := s, asked := some url }

/-- Deals with a posted body that arrives at some time; `moments` are what others do while there is
no room for it. -/
def post (s : Store) (n : Network) (now : Int64) (moments : List Action) (b : Body) : Posted :=
  match b.read with
  | .error f => { result := .refused (.body f), store := s }
  | .ok raw =>
    match normalize raw now with
    | .error r => { result := .refused (.payload r), store := s }
    | .ok (.state state _) => s.cachePosted state moments
    | .ok (.confirmation url) => s.confirmPosted n url

end Store

end AlertRelay
