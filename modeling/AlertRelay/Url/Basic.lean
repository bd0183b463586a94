/-
AlertRelay/Url/Basic.lean

URLs.

A URL has a scheme.  What follows is either a place in some hierarchy, perhaps at a host, or a plain
text that only the scheme understands.
-/
import AlertRelay.Url.Host

namespace AlertRelay

/-- How a scheme is read. -/
inductive SchemeKind where
  /-- One that everybody knows, with its usual port. -/
  | special (port : UInt16)
  | file
  | foreign
deriving DecidableEq, Repr

/-- How a scheme is read. -/
def schemeKind (scheme : String) : SchemeKind :=
  match scheme with
  | "http" => .special 80
  | "https" => .special 443
  | "ws" => .special 80
  | "wss" => .special 443
  | "ftp" => .special 21
  | "file" => .file
  | _ => .foreign

/-- Whether everybody knows a scheme. -/
def SchemeKind.isSpecial : SchemeKind → Bool
  | .foreign => false
  | _ => true

/-- Who is asked, and in whose name.  The host may be the empty name. -/
structure Authority where
  user : String := ""
  password : String := ""
  host : Host := .name ""
  /-- The port, unless it is the usual one. -/
  port : Option UInt16 := none
deriving DecidableEq, Repr

/-- What follows in a URL. -/
inductive UrlPath where
  /-- Names in a hierarchy. -/
  | names (segments : List String)
  /-- A text that only the scheme understands. -/
  | plain (text : String)
deriving DecidableEq, Repr

/-- A URL. -/
structure Url where
  scheme : String
  authority : Option Authority := none
  path : UrlPath := .names []
  query : Option String := none
  fragment : Option String := none
deriving DecidableEq, Repr

/-! ### Showing -/

/-- An authority as it is shown. -/
def Authority.text (a : Authority) : String :=
  let secret := if a.password = "" then "" else ":" ++ a.password
  let who := if a.user = "" && a.password = "" then "" else a.user ++ secret ++ "@"
  who ++ a.host.text ++ (a.port.elim "" fun p => ":" ++ toString p)

/-- A path as it is shown. -/
def UrlPath.text : UrlPath → String
  | .names segments => String.join (segments.map ("/" ++ ·))
  | .plain text => text

namespace Url

/-- A URL as it is shown.  A path that begins with an empty name and has no host before it is marked
as a path. -/
def text (u : Url) : String :=
  let mark := match u.authority, u.path with
    | none, .names ("" :: _ :: _) => "/."
    | _, _ => ""
  u.scheme ++ ":" ++ (u.authority.elim "" fun a => "//" ++ a.text) ++ mark ++ u.path.text ++
    (u.query.elim "" ("?" ++ ·)) ++ (u.fragment.elim "" ("#" ++ ·))

/-! ### Parts -/

/-- The host, if there is one. -/
def host? (u : Url) : Option Host :=
  match u.authority with
  | none => none
  | some a => if a.host = .name "" then none else some a.host

/-- The port, if it is not the usual one. -/
def port? (u : Url) : Option UInt16 :=
  u.authority.bind (·.port)

/-- A URL without the one in whose name it asks. -/
def withoutUser (u : Url) : Url :=
  { u with authority := u.authority.map fun a => { a with user := "", password := "" } }

end Url

end AlertRelay
