/-
AlertRelay/SystemFault.lean

Faults of the system.

What goes wrong below the relay, with a file or with a connection, has a number, a kind and a text.
It is told in words or with its parts.
-/
import AlertRelay.Text.Quoted

namespace AlertRelay

/-- A fault of the system. -/
structure SystemFault where
  number : Nat
  /-- The name of its kind. -/
  kind : String
  text : String
deriving DecidableEq, Repr

namespace SystemFault

/-- A fault in words. -/
def message (f : SystemFault) : String :=
  f.text ++ " (os error " ++ toString f.number ++ ")"

/-- A fault with its parts. -/
def parts (f : SystemFault) : String :=
  "Os \x7b code: " ++ toString f.number ++ ", kind: " ++ f.kind ++ ", message: " ++
    quoted f.text ++ " \x7d"

end SystemFault

end AlertRelay
