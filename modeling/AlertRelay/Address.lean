/-
AlertRelay/Address.lean

Addresses of servers: a host and a port with a colon between them.

The host ends at the first colon and may be any text but the empty one.  The port is a number of
16 bits; a plus before it and zeros at its front do not matter.
-/
import AlertRelay.Number.Decimal

namespace AlertRelay

/-- A host and a port. -/
structure Address where
  host : String
  port : Nat
deriving DecidableEq, Repr

/-- The parts of a list before and after the first occurrence of an element. -/
def splitOnce? {α : Type} [DecidableEq α] (a : α) : List α → Option (List α × List α)
  | [] => none
  | b :: rest =>
    if b = a then some ([], rest)
    else (splitOnce? a rest).map fun p => (b :: p.1, p.2)

/-- The greatest port. -/
def greatestPort : Nat := 65535

/-- The address that a text spells. -/
def Address.parse? (s : String) : Option Address := do
  let (host, port) ← splitOnce? ':' s.toList
  if host.isEmpty then none
  else
    let port ← Decimal.unsigned? greatestPort port
    some ⟨String.ofList host, port⟩

end AlertRelay
