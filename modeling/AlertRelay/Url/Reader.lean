/-
AlertRelay/Url/Reader.lean

Reading URLs.

A URL is read in parts.  A `#` ends everything before the fragment and a `?` everything before the
query, so they are cut off first; what is left is the scheme, perhaps an authority, and a path.  In
a scheme that everybody knows a backslash is a slash, and the number of slashes before the host
does not matter.

Blanks around a URL, and tabs and line breaks within, do not count.
-/
import AlertRelay.Number.Decimal
import AlertRelay.Url.Basic

namespace AlertRelay

namespace Url

/-! ### Scheme -/

/-- Whether a character can stand in a scheme. -/
def inScheme (c : Char) : Bool :=
  c.isAlphanum || ['+', '-', '.'].contains c

/-- Cuts off the scheme and its colon. -/
def cutScheme (cs : List Char) : Option (String × List Char) :=
  let name := cs.takeWhile inScheme
  match cs.drop name.length with
  | ':' :: rest =>
    if name.head?.any Char.isAlpha then some (String.ofList (name.map Char.toLower), rest)
    else none
  | _ => none

/-! ### Authority -/

/-- Whether a character separates names. -/
def isSlash (kind : SchemeKind) (c : Char) : Bool :=
  c = '/' || c = '\\' && kind.isSpecial

/-- Whether a character ends an authority. -/
def endsAuthority (kind : SchemeKind) (c : Char) : Bool :=
  isSlash kind c || c = '?' || c = '#'

/-- Cuts a text at the last `@`. -/
def cutUser (cs : List Char) : Option (List Char × List Char) :=
  let back := cs.reverse
  match back.dropWhile (· ≠ '@') with
  | [] => none
  | _ :: before => some (before.reverse, (back.takeWhile (· ≠ '@')).reverse)

/-- A name and a password. -/
def readUser (cs : List Char) : String × String :=
  let escaped (s : List Char) := String.ofList (Percent.encode Percent.inUserInfo s)
  let user := cs.takeWhile (· ≠ ':')
  (escaped user, escaped (cs.drop (user.length + 1)))

/-- Cuts off a host: it ends at a colon outside brackets. -/
def cutHost (inside : Bool) : List Char → List Char × List Char
  | [] => ([], [])
  | c :: rest =>
    if c = ':' && !inside then ([], c :: rest)
    else
      let (host, after) := cutHost (c = '[' || inside && c ≠ ']') rest
      (c :: host, after)

/-- The number that some digits spell, if a port can have it. -/
def portOf? (digits : List Char) : Option (Option UInt16) :=
  match digits with
  | [] => some none
  | ds =>
    match Decimal.value? ds with
    | none => none
    | some n => if n < 65536 then some (some (UInt16.ofNat n)) else none

/-- Reads a port behind a host, and gives what follows it: nothing, or a backslash and more. -/
def readPort (usual : Option UInt16) : List Char →
    Except UrlFault (Option UInt16 × List Char)
  | ':' :: rest =>
    let digits := rest.takeWhile (·.isDigit)
    let after := rest.drop digits.length
    match portOf? digits with
    | none => .error .invalidPort
    | some port =>
      if after = [] || after.head? = some '\\' then
        .ok (if port = usual then none else port, after)
      else .error .invalidPort
  | rest => .ok (none, rest)

/-- Reads an authority that stands before some text, and gives what of it belongs to that text. -/
def readAuthority (kind : SchemeKind) (cs after : List Char) :
    Except UrlFault (Authority × List Char) := do
  let (user, place) := (cutUser cs).getD ([], cs)
  if (cutUser cs).isSome && user = [] && place = [] && after ≠ [] then .error .emptyHost
  let (name, rest) := cutHost false place
  if name = [] && (kind.isSpecial || rest ≠ []) then .error .emptyHost
  let host ← if kind.isSpecial then Host.parse name else Host.parseForeign name
  let (port, rest) ← readPort (match kind with | .special p => some p | _ => none) rest
  let (user, password) := readUser user
  if host = .name "" && (user ≠ "" || password ≠ "") then .error .emptyHost
  pure ({ user, password, host, port }, rest)

/-! ### Path -/

/-- Whether a name stands for the place itself. -/
def isHere (segment : String) : Bool :=
  [".", "%2e"].contains segment.toLower

/-- Whether a name stands for the place above. -/
def isAbove (segment : String) : Bool :=
  ["..", "%2e.", ".%2e", "%2e%2e"].contains segment.toLower

/-- Whether a name is a letter for a disk. -/
def isDrive (segment : String) : Bool :=
  match segment.toList with
  | [c, d] => c.isAlpha && (d = ':' || d = '|')
  | _ => false

/-- The names of the place above some names; a disk stays. -/
def above (kind : SchemeKind) (names : List String) : List String :=
  if kind = .file && names.length = 1 && names.any isDrive then names else names.dropLast

/-- Follows names from a place. -/
def follow (kind : SchemeKind) : (place : List String) → List String → List String
  | place, [] => place
  | place, s :: rest =>
    let last := if rest = [] then [""] else []
    if isAbove s then follow kind (above kind place ++ last) rest
    else if isHere s then follow kind (place ++ last) rest
    else if kind = .file && place = [] && isDrive s then
      follow kind [String.ofList (s.toList.take 1 ++ [':'])] rest
    else follow kind (place ++ [s]) rest

/-- Reads the names of a path, whose first slash has been cut off. -/
def readNames (kind : SchemeKind) (cs : List Char) : List String :=
  let segments := (pieces (isSlash kind) cs).map fun s =>
    String.ofList (Percent.encode Percent.inPath s)
  follow kind [] segments

/-- Reads the path behind an authority. -/
def readPath (kind : SchemeKind) (cs : List Char) : List String :=
  match cs with
  | [] => if kind.isSpecial then [""] else []
  | c :: rest => readNames kind (if isSlash kind c then rest else c :: rest)

/-! ### The whole -/

/-- Reads a query. -/
def readQuery (kind : SchemeKind) (cs : List Char) : String :=
  String.ofList
    (Percent.encode (if kind.isSpecial then Percent.inSpecialQuery else Percent.inQuery) cs)

/-- Reads a URL in a scheme with hosts, from its authority on. -/
def readAt (kind : SchemeKind) (scheme : String) (cs after : List Char) :
    Except UrlFault Url := do
  let own := cs.takeWhile (!endsAuthority kind ·)
  let path := cs.drop own.length
  let (authority, rest) ← readAuthority kind own (path ++ after)
  pure { scheme, authority := some authority, path := .names (readPath kind (rest ++ path)) }

/-- Reads the host of a file. -/
def readFileHost (cs : List Char) : Except UrlFault Host :=
  if cs = [] || isDrive (String.ofList cs) then .ok (.name "")
  else
    match Host.parse cs with
    | .ok h => .ok (if h = .name "localhost" then .name "" else h)
    | .error f => .error f

/-- Reads the URL of a file, from behind its scheme on. -/
def readFile (cs : List Char) : Except UrlFault Url := do
  let slashes := (cs.takeWhile (isSlash .file)).length
  let (own, path) :=
    if slashes < 2 then ([], cs)
    else
      let own := (cs.drop 2).takeWhile (!isSlash .file ·)
      if isDrive (String.ofList own) then ([], cs.drop 2) else (own, (cs.drop 2).drop own.length)
  let host ← readFileHost own
  let names := readNames .file (path.dropWhile (isSlash .file))
  let host := if names.head?.any isDrive then .name "" else host
  pure { scheme := "file", authority := some { host }, path := .names names }

/-- Reads what follows a scheme, up to the query; `after` follows that. -/
def readScheme (scheme : String) (cs after : List Char) : Except UrlFault Url :=
  match schemeKind scheme with
  | .file => readFile cs
  | .special port => readAt (.special port) scheme (cs.dropWhile (isSlash (.special port))) after
  | .foreign =>
    match cs with
    | '/' :: '/' :: rest => readAt .foreign scheme rest after
    | '/' :: rest => .ok { scheme, path := .names (readNames .foreign rest) }
    | cs => .ok { scheme, path := .plain (String.ofList (Percent.encode Percent.inAny cs)) }

/-- Drops blanks and controls from the beginning of a text. -/
def dropBlanks (cs : List Char) : List Char :=
  cs.dropWhile (· ≤ ' ')

/-- The characters of a text that count. -/
def counted (cs : List Char) : List Char :=
  (dropBlanks (dropBlanks cs).reverse).reverse.filter fun c =>
    c ≠ '\t' && c ≠ '\n' && c ≠ '\r'

/-- The URL that a text spells. -/
def parse (s : String) : Except UrlFault Url := do
  match cutScheme (counted s.toList) with
  | none => .error .relative
  | some (scheme, cs) =>
    let kind := schemeKind scheme
    let main := cs.takeWhile fun c => c ≠ '?' && c ≠ '#'
    let after := cs.drop main.length
    let query := (after.drop 1).takeWhile (· ≠ '#')
    let hasQuery := after.head? = some '?'
    let fragment := after.dropWhile (· ≠ '#')
    let u ← readScheme scheme main after
    pure { u with
      query := if hasQuery then some (readQuery kind query) else none
      fragment := if fragment = [] then none
        else some (String.ofList (Percent.encode Percent.inFragment (fragment.drop 1))) }

end Url

end AlertRelay
