/-
AlertRelay/CommandLine/Value.lean

The values that flags take.

A whole number may have a sign and zeros at its front.  A path is anything but the empty text.
-/
import AlertRelay.CommandLine.Basic
import AlertRelay.Settings.Basic

namespace AlertRelay

namespace Flag

variable {σ : Type}

/-- A flag with any text. -/
def text (set : String → σ → σ) : FlagEffect σ :=
  .value fun s => .ok (set s)

/-- A flag with a path. -/
def path (set : String → σ → σ) : FlagEffect σ :=
  .value fun s => if s = "" then .error .invalidValue else .ok (set s)

/-- A flag with a whole number between two bounds. -/
def number (least greatest : Int) (set : Int → σ → σ) : FlagEffect σ :=
  .value fun s =>
    match Decimal.signed? least greatest s.toList with
    | some n => .ok (set n)
    | none => .error .valueValidation

/-- A flag with a number of 64 bits with a sign. -/
def int64 (set : Int64 → σ → σ) : FlagEffect σ :=
  number Int64.minValue.toInt Int64.maxValue.toInt fun n => set (Int64.ofInt n)

/-- A flag with a number of 16 bits. -/
def uint16 (set : UInt16 → σ → σ) : FlagEffect σ :=
  number 0 65535 fun n => set (UInt16.ofNat n.toNat)

/-- A flag with a number of 8 bits. -/
def uint8 (set : UInt8 → σ → σ) : FlagEffect σ :=
  number 0 255 fun n => set (UInt8.ofNat n.toNat)

/-- A flag with a span of time. -/
def duration (set : Duration → σ → σ) : FlagEffect σ :=
  .value fun s =>
    match readDuration s with
    | .ok d => .ok (set d)
    | .error (.refused _) => .error .valueValidation
    | .error .overflow => .error .overflow

end Flag

end AlertRelay
