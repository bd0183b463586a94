/-
AlertRelay/Program/Ending.lean

How a program ends.

A program that was used in a wrong way ends with 2, one that failed ends with 1 and tells what was
wrong, one that breaks off because a number outgrew its word ends with 101, and every other one ends
with 0.  There are two forms of telling: the fault with its parts, each in the parentheses behind
its name, and the causes of the fault one below the other.
-/
import AlertRelay.CommandLine.Basic
import AlertRelay.Delivery
import AlertRelay.Network
import AlertRelay.Settings.Basic
import AlertRelay.Text.Quoted

namespace AlertRelay

/-- How a program ends. -/
structure Ending where
  status : Nat := 0
  /-- What it tells of its failure. -/
  complaint : String := ""
deriving DecidableEq, Repr

namespace Ending

/-- The end of a program that broke off. -/
def brokenOff : Ending :=
  { status := 101 }

/-- The end of a program that was not used as it should be, or only asked for a text. -/
def ofUsage : UsageFault → Ending
  | .overflow => brokenOff
  | f => { status := if f.isQuestion then 0 else 2 }

/-- The end of a program that failed. -/
def failed (text : String) : Ending :=
  { status := 1, complaint := "Error: " ++ text ++ "\n" }

end Ending

/-! ### Faults with their parts -/

/-- A name with a part behind it. -/
def inParentheses (name part : String) : String :=
  name ++ "(" ++ part ++ ")"

/-- A fault with its parts. -/
def FileFault.parts (f : FileFault) : String :=
  match f.system? with
  | some system => system.parts
  | none => "Error \x7b kind: InvalidData, message: " ++ quoted f.message ++ " \x7d"

/-- A fault with its parts. -/
def NetworkFault.parts (f : NetworkFault) : String :=
  match f.system? with
  | some system => system.parts
  | none => f.message

/-- A fault with its parts. -/
def SettingsFault.parts : SettingsFault → String
  | .readFailed f => inParentheses "ReadFailed" f.parts
  | .writeFailed f => inParentheses "WriteFailed" f.parts
  | .parseFailed => "ParseFailed"
  | .serializeFailed => "SerializeFailed"
  | .pathUnavailable => "ConfigPathUnavailable"
  | .invalidAddress text => inParentheses "InvalidAddress" (quoted text)
  | .invalidDuration text => inParentheses "InvalidDuration" (quoted text)

/-- A fault with its parts. -/
def QueueFault.parts : QueueFault → String
  | .connection text => inParentheses "Connection" text
  | .unavailable text => inParentheses "Unavailable" (quoted text)

/-- The name of a complaint about a field. -/
def MissingField.part : MissingField → String
  | .entity => "NoEntity"
  | .check => "NoCheck"
  | .state => "NoState"
  | .summary => "NoSummary"

/-- A fault with its parts. -/
def SendFault.parts : SendFault → String
  | .invalid field => inParentheses "Validation" field.part
  | .queue f => f.parts

/-! ### Causes -/

/-- Some lines, the first after a mark and the others as far to the right. -/
def hang (mark : String) (text : String) : String :=
  let indent := String.ofList (List.replicate mark.length ' ')
  let lines := (pieces (· = '\n') text.toList).map String.ofList
  mark ++ ("\n" ++ indent).intercalate lines

/-- The mark of a cause among several. -/
def causeMark (number : Nat) : String :=
  let digits := toString number
  String.ofList (List.replicate (5 - digits.length) ' ') ++ digits ++ ": "

/-- Causes one below the other. -/
def causeLines : List String → List String
  | [cause] => [hang "    " cause]
  | causes => causes.zipIdx.map fun (cause, number) => hang (causeMark number) cause

/-- The causes of a fault, the outermost first, as they are told. -/
def toldCauses : List String → String
  | [] => ""
  | [cause] => cause
  | cause :: causes => cause ++ "\n\nCaused by:\n" ++ "\n".intercalate (causeLines causes)

end AlertRelay
