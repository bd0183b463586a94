/-
AlertRelay/Url/Ip.lean

Addresses of the network.

An address of four bytes can be written in many ways: with one to four numbers, of which the last
one fills the bytes that are left, each in decimal, in octal (after a zero) or in hexadecimal
(after `0x`).  It is shown in one way.

An address of sixteen bytes is written as eight groups of hexadecimal digits.  One run of zeros may
be left out, and the last two groups may be written like an address of four bytes.
-/
import AlertRelay.Number.Hexadecimal
import AlertRelay.Url.Domain

namespace AlertRelay

namespace Ip

/-- The number that digits of a base spell; no digits spell zero. -/
def number? (base : Nat) (cs : List Char) : Option Nat :=
  cs.foldlM (fun n c =>
    match Hexadecimal.digit? c with
    | none => none
    | some d => if d < base then some (base * n + d) else none) 0

/-! ### Four bytes -/

/-- A number of an address, in one of three bases. -/
def part? : List Char → Option Nat
  | [] => none
  | '0' :: 'x' :: cs => number? 16 cs
  | '0' :: 'X' :: cs => number? 16 cs
  | '0' :: c :: cs => number? 8 (c :: cs)
  | cs => number? 10 cs

/-- The labels of a name without an empty one at its end. -/
def parts (name : List Char) : List (List Char) :=
  let ls := Domain.labels name
  match ls.reverse with
  | [] :: before => before.reverse
  | _ => ls

/-- Whether a name is meant to be an address: its last label is a number. -/
def isMeant (name : List Char) : Bool :=
  match (parts name).getLast? with
  | none => false
  | some [] => false
  | some l => l.all (·.isDigit) || (part? l).isSome

/-- The number of which some numbers are the bytes, the last one all that are left. -/
def assemble? : (numbers : List Nat) → (bytes : Nat) → Option Nat
  | [], _ => none
  | [n], bytes => if n < Nat.pow 256 bytes then some n else none
  | n :: rest, bytes =>
    if n < 256 then (assemble? rest (bytes - 1)).map (n * Nat.pow 256 (bytes - 1) + ·) else none

/-- The address that a name spells. -/
def v4? (name : List Char) : Option UInt32 := do
  let ps := parts name
  if 4 < ps.length then none
  let numbers ← ps.mapM part?
  (assemble? numbers 4).map UInt32.ofNat

/-- A byte in decimal, without zeros before it. -/
def byte? (cs : List Char) : Option Nat :=
  match cs with
  | [] => none
  | '0' :: _ :: _ => none
  | cs => (number? 10 cs).bind fun n => if n < 256 then some n else none

/-- Four bytes with dots between them. -/
def bytes? (cs : List Char) : Option (Nat × Nat × Nat × Nat) :=
  match (Domain.labels cs).mapM byte? with
  | some [a, b, c, d] => some (a, b, c, d)
  | _ => none

/-- The address of four bytes that are written in decimal. -/
def plainV4? (cs : List Char) : Option UInt32 :=
  (bytes? cs).map fun (a, b, c, d) => UInt32.ofNat (((a * 256 + b) * 256 + c) * 256 + d)

/-- An address of four bytes as it is shown. -/
def v4Text (a : UInt32) : String :=
  let byte (i : Nat) := toString (a.toNat / Nat.pow 256 i % 256)
  ".".intercalate [byte 3, byte 2, byte 1, byte 0]

/-! ### Sixteen bytes -/

/-- The texts between colons; an empty text has none. -/
def groupTexts (cs : List Char) : List (List Char) :=
  if cs = [] then [] else pieces (· = ':') cs

/-- A group: one to four digits. -/
def group? (cs : List Char) : Option Nat :=
  if cs = [] || 4 < cs.length then none else number? 16 cs

/-- The groups of some texts, of which the last may be written as four bytes. -/
def groups? : List (List Char) → Option (List Nat)
  | [] => some []
  | [t] =>
    if t.contains '.' then (bytes? t).map fun (a, b, c, d) => [256 * a + b, 256 * c + d]
    else (group? t).map ([·])
  | t :: ts => do
    let g ← group? t
    (groups? ts).map (g :: ·)

/-- Splits a text at its first pair of colons. -/
def splitPair : List Char → Option (List Char × List Char)
  | ':' :: ':' :: rest => some ([], rest)
  | [] => none
  | c :: rest => (splitPair rest).map fun (a, b) => (c :: a, b)

/-- The eight groups that a text spells. -/
def v6? (cs : List Char) : Option (List Nat) :=
  match splitPair cs with
  | none =>
    match groups? (groupTexts cs) with
    | none => none
    | some gs => if gs.length = 8 then some gs else none
  | some (a, b) =>
    match (groupTexts a).mapM group?, groups? (groupTexts b) with
    | some before, some after =>
      let given := before.length + after.length
      if given < 8 then some (before ++ List.replicate (8 - given) 0 ++ after) else none
    | _, _ => none

/-- The place and the length of the first longest run of zeros. -/
def longestRun (gs : List Nat) : Nat × Nat :=
  let runs := (List.range gs.length).map fun i => (i, ((gs.drop i).takeWhile (· = 0)).length)
  runs.foldl (fun best r => if best.2 < r.2 then r else best) (0, 0)

/-- Groups between colons. -/
def groupsText (gs : List Nat) : String :=
  ":".intercalate (gs.map fun g => String.ofList (Hexadecimal.lowerDigits g))

/-- An address of sixteen bytes as it is shown. -/
def v6Text (gs : List Nat) : String :=
  let (start, length) := longestRun gs
  if length < 2 then groupsText gs
  else groupsText (gs.take start) ++ "::" ++ groupsText (gs.drop (start + length))

end Ip

end AlertRelay
