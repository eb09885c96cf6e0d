import FlowRunner.Number.Reading

/-!
# Durations

A duration is a whole number of nanoseconds. A number of seconds becomes the nearest duration; a
number of 2 ^ 64 seconds or more has none.
-/

namespace FlowRunner

/-- A length of time. -/
structure Duration where
  nanos : Nat
  deriving DecidableEq, Repr, Inhabited

namespace Duration

/-- No time. -/
def zero : Duration := ⟨0⟩

/-- So many seconds. -/
def ofSecs (n : Nat) : Duration := ⟨n * 1000000000⟩

/-- So many milliseconds. -/
def ofMillis (n : Nat) : Duration := ⟨n * 1000000⟩

/-- Whether it is no time at all. -/
def isZero (d : Duration) : Bool := d.nanos == 0

/-- What is left of a duration after another one. -/
def minus (d spent : Duration) : Duration := ⟨d.nanos - spent.nanos⟩

/-- The whole milliseconds in a duration. -/
def millis (d : Duration) : Nat := d.nanos / 1000000

/-- The milliseconds after which a duration is over. -/
def millisUp (d : Duration) : Nat := (d.nanos + 999999) / 1000000

/-- The duration of a number of seconds, when it is short enough. What is not a positive finite
number is no time. -/
def ofSeconds? (seconds : Real64) : Option Duration :=
  match seconds with
  | .finite x =>
    if x.negative || x.isZero then some zero
    else if !Reading.fits 64 x.floorMagnitude then none
    else
      let (n, d) := x.ratio
      some ⟨roundQuotient (n * 1000000000) d⟩
  | _ => some zero

end Duration

end FlowRunner
