/-
AlertRelay/Server/Route.lean

Where a request goes.

The states have a path of their own, which is set.  It may have names between braces in it, for
any name between slashes or for any rest.  Paths are compared byte by byte: case and a slash at the
end matter, and a query does not.
-/
import AlertRelay.Number.Hexadecimal
import AlertRelay.Text.Utf8

namespace AlertRelay

/-- A part of a path that is set. -/
inductive RoutePart where
  | text (bytes : Bytes)
  /-- Any name between slashes. -/
  | anyName
  /-- Any rest, slashes included. -/
  | anyRest
deriving DecidableEq, Repr

namespace Route

/-- What stands for any rest behind a name. -/
def restMark : List Char := ":.*".toList

/-- The part that a name between braces makes; a star may follow the last one. -/
def namePart (name : List Char) (after : List Char) : RoutePart :=
  if after = ['*'] || name.dropWhile (· ≠ ':') = restMark then .anyRest else .anyName

/-- The parts of a path that is set.  The characters that have been read are the last first, and
`inName` says whether a brace is open. -/
def parts : (before : List Char) → (inName : Bool) → List Char → List RoutePart
  | before, _, [] => [.text (utf8 (String.ofList before.reverse))]
  | before, true, c :: rest =>
    if c = '\x7d' then
      namePart before.reverse rest :: parts [] false (if rest = ['*'] then [] else rest)
    else parts (c :: before) true rest
  | before, false, c :: rest =>
    if c = '\x7b' then .text (utf8 (String.ofList before.reverse)) :: parts [] true rest
    else parts (c :: before) false rest
termination_by _ _ cs => cs.length
decreasing_by
  all_goals simp
  split <;> simp

/-- The parts of a path that is set, which begins with a slash whether one was written or not. -/
def ofPath (path : String) : List RoutePart :=
  match path.toList with
  | [] => parts [] false []
  | c :: rest => parts [] false (if c = '/' then c :: rest else '/' :: c :: rest)

/-- Whether a path is made of some parts. -/
def isMadeOf : List RoutePart → Bytes → Bool
  | [], s => s.isEmpty
  | .text t :: rest, s => t.isPrefixOf s && isMadeOf rest (s.drop t.length)
  | .anyName :: rest, s =>
    (List.range (s.takeWhile (· ≠ 0x2f)).length).any fun n => isMadeOf rest (s.drop (n + 1))
  | .anyRest :: rest, s => (List.range (s.length + 1)).any fun n => isMadeOf rest (s.drop n)

/-- Whether an escaped byte stays escaped, because it means something in a path. -/
def staysEscaped (b : Nat) : Bool :=
  b = 0x25 || b = 0x2f || b = 0x2b

/-- A path without its escapes. -/
def unescaped : Bytes → Bytes
  | 0x25 :: a :: b :: rest =>
    match Hexadecimal.byteDigit? a, Hexadecimal.byteDigit? b with
    | some m, some n =>
      if staysEscaped (16 * m + n) then 0x25 :: a :: b :: unescaped rest
      else UInt8.ofNat (16 * m + n) :: unescaped rest
    | _, _ => 0x25 :: unescaped (a :: b :: rest)
  | b :: rest => b :: unescaped rest
  | [] => []

/-- The path of a target: what stands before the query. -/
def pathOf (target : String) : Bytes :=
  unescaped ((utf8 target).takeWhile fun b => b ≠ 0x3f && b ≠ 0x23)

/-- Whether a target is at a path that is set. -/
def isAt (path target : String) : Bool :=
  isMadeOf (ofPath path) (pathOf target)

end Route

end AlertRelay
