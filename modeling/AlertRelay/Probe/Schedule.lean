/-
AlertRelay/Probe/Schedule.lean

When a monitor looks at its target.

The first look is due at once, and every later one an interval after the one before it was due.  A
look that takes longer than that is followed by the next one as soon as it ends; then the interval
counts from there, unless the delay was too short to matter.  Nothing is looked at twice at the same
time.

A monitor that is told to stop finishes the look it is at, and reports it.
-/
import AlertRelay.Duration

namespace AlertRelay

namespace Schedule

/-- A delay that does not matter, in milliseconds. -/
def tolerance : Nat := 5

/-- When the look after one that began at some time is due. -/
def nextDue (interval due began : Nat) : Nat :=
  if due + tolerance < began then began + interval else due + interval

/-- The looks that begin before the end, of at most so many: the number and the end of each.  The
next one is due at some time, and cannot begin before `free`.  All times are in milliseconds. -/
def looksFrom (interval : Nat) (takes : Nat → Nat) (stop : Nat) :
    (most : Nat) → (number due free : Nat) → List (Nat × Nat)
  | 0, _, _, _ => []
  | most + 1, number, due, free =>
    let began := max due free
    if began < stop then
      let ends := began + takes number
      (number, ends) ::
        looksFrom interval takes stop most (number + 1) (nextDue interval due began) ends
    else []

/-- The looks of a monitor that is told to stop after some time.  Every look is due at a millisecond
of its own before that, so there are not more looks than milliseconds. -/
def looks (interval : Nat) (takes : Nat → Nat) (stop : Nat) : List (Nat × Nat) :=
  looksFrom interval takes stop stop 0 0 0

end Schedule

end AlertRelay
