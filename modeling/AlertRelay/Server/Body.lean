/-
AlertRelay/Server/Body.lean

The body of a request.

A body arrives in chunks, and may be cut off after any of them.  It is gathered up to a limit; how
it was cut into chunks does not show in what is gathered.
-/
import AlertRelay.SystemFault
import AlertRelay.Text.Utf8

namespace AlertRelay

/-- What can cut a body off. -/
inductive BodyCut where
  /-- The sender is gone, perhaps because of something that the system tells. -/
  | incomplete (cause : Option SystemFault)
  | encodingCorrupted
  | overflow
  | unknownLength
  /-- The connection does not work. -/
  | broken (cause : SystemFault)
deriving DecidableEq, Repr

/-- A cut in words. -/
def BodyCut.message : BodyCut → String
  | .incomplete none => "payload reached EOF before completing: None"
  | .incomplete (some cause) =>
    "payload reached EOF before completing: Some(" ++ cause.parts ++ ")"
  | .encodingCorrupted => "cannot decode content-encoding"
  | .overflow => "payload reached size limit"
  | .unknownLength => "payload length is unknown"
  | .broken cause => cause.message

/-- A body as it arrives. -/
structure Body where
  chunks : List Bytes
  /-- What comes after the chunks instead of an end. -/
  cut : Option BodyCut := none
deriving DecidableEq, Repr

/-- Why a body was not gathered. -/
inductive BodyFault where
  | tooLarge
  | cut (c : BodyCut)
deriving DecidableEq, Repr

namespace Body

/-- The greatest number of bytes in a body. -/
def limit : Nat := 1048576

/-- Gathers chunks behind what has been gathered. -/
def gather (before : Bytes) : List Bytes → Except BodyFault Bytes
  | [] => .ok before
  | chunk :: rest =>
    if limit < before.length + chunk.length then .error .tooLarge
    else gather (before ++ chunk) rest

/-- The whole body. -/
def read (b : Body) : Except BodyFault Bytes :=
  match gather [] b.chunks with
  | .error f => .error f
  | .ok whole =>
    match b.cut with
    | some c => .error (.cut c)
    | none => .ok whole

end Body

/-- A fault in words. -/
def BodyFault.message : BodyFault → String
  | .tooLarge => "body is larger than " ++ toString Body.limit ++ " bytes"
  | .cut c => c.message

end AlertRelay
