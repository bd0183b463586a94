/-
AlertRelay/Duration.lean

Spans of time.

A span is a number of nanoseconds.  It is written down as a number and a unit (`10s`, `500ms`,
`5m`, `1h`, or seconds without a unit) and shown in the largest unit of seconds, milliseconds,
microseconds and nanoseconds that it fills, with as many places as it needs.

Minutes and hours are turned into seconds in a word of 64 bits.  A number of them may fit into the
word and its seconds may not, and then there is no going on: this is no fault that somebody deals
with, but one with which the whole program breaks off (`DurationFault.overflow`).
-/
import AlertRelay.Number.Decimal
import AlertRelay.Text.Blank

namespace AlertRelay

/-- A span of time. -/
structure Duration where
  nanos : Nat
deriving DecidableEq, Repr, Inhabited

namespace Duration

/-- A number of seconds. -/
def ofSeconds (n : Nat) : Duration :=
  ⟨n * 1000000000⟩

/-- A number of milliseconds. -/
def ofMillis (n : Nat) : Duration :=
  ⟨n * 1000000⟩

/-- The whole seconds. -/
def seconds (d : Duration) : Nat :=
  d.nanos / 1000000000

/-- What is left beyond the whole seconds. -/
def subsecond (d : Duration) : Nat :=
  d.nanos % 1000000000

/-! ### Showing -/

/-- Digits after the point for a fraction below `10 ^ places`, without zeros at the end. -/
def fraction : (places : Nat) → Nat → List Char
  | 0, _ => []
  | places + 1, rest =>
    if rest = 0 then []
    else Nat.digitChar (rest / Nat.pow 10 places) :: fraction places (rest % Nat.pow 10 places)

/-- A number of units of `10 ^ places` nanoseconds. -/
def inUnit (places : Nat) (unit : String) (d : Duration) : String :=
  let whole := toString (d.nanos / Nat.pow 10 places)
  match fraction places (d.nanos % Nat.pow 10 places) with
  | [] => whole ++ unit
  | digits => whole ++ "." ++ String.ofList digits ++ unit

/-- A span as it is shown. -/
def text (d : Duration) : String :=
  if Nat.pow 10 9 ≤ d.nanos then d.inUnit 9 "s"
  else if Nat.pow 10 6 ≤ d.nanos then d.inUnit 6 "ms"
  else if Nat.pow 10 3 ≤ d.nanos then d.inUnit 3 "µs"
  else d.inUnit 0 "ns"

end Duration

/-! ### Reading -/

/-- Why a text is no span of time. -/
inductive DurationFault where
  /-- It is not written as one, or takes no time. -/
  | malformed
  /-- Its seconds do not fit into a word. -/
  | overflow
deriving DecidableEq, Repr

namespace Duration

/-- The greatest number that fits into a word. -/
def greatestNumber : Nat := Nat.pow 2 64 - 1

/-- A number of units of so many seconds each. -/
def ofManySeconds (n each : Nat) : Except DurationFault Duration :=
  if greatestNumber < n * each then .error .overflow else .ok (ofSeconds (n * each))

/-- The span of a number of units. -/
def ofUnit (n : Nat) (unit : String) : Except DurationFault Duration :=
  match unit with
  | "ms" => .ok (ofMillis n)
  | "" => .ok (ofSeconds n)
  | "s" => .ok (ofSeconds n)
  | "m" => ofManySeconds n 60
  | "h" => ofManySeconds n 3600
  | _ => .error .malformed

/-- The span that a text without blanks around it spells; an empty span is none. -/
def parse (s : String) : Except DurationFault Duration :=
  let digits := s.toList.takeWhile (Decimal.digit? · |>.isSome)
  let unit := s.toList.dropWhile (Decimal.digit? · |>.isSome)
  match Decimal.value? digits with
  | none => .error .malformed
  | some n =>
    if greatestNumber < n then .error .malformed
    else
      match ofUnit n (String.ofList unit) with
      | .error f => .error f
      | .ok d => if d.nanos = 0 then .error .malformed else .ok d

end Duration

end AlertRelay
