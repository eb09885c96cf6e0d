import FlowRunner.Number.Shortest

/-!
# JSON numbers

A number is an integer that fits 64 bits, with a sign or without, or a finite float. The two kinds
stay apart: `1` and `1.0` are different numbers. The text of an integer never holds a point or an
exponent mark, that of a float always holds one.
-/

namespace FlowRunner

/-- The integers that fit 64 bits, with a sign or without. -/
def Number.InRange (n : Int) : Prop := -9223372036854775808 ≤ n ∧ n ≤ 18446744073709551615

instance (n : Int) : Decidable (Number.InRange n) := by unfold Number.InRange; infer_instance

/-- A JSON number. -/
inductive Number
  | integer (value : Int) (inRange : Number.InRange value)
  | real (value : Binary64)
  deriving DecidableEq

namespace Number

instance : Inhabited Number := ⟨.integer 0 (by decide)⟩

/-- The integer as a number, when it fits. -/
def ofInt? (n : Int) : Option Number :=
  if h : InRange n then some (.integer n h) else none

/-- The text of a number: decimal digits, or the shortest decimal of a float. -/
def text : Number → String
  | .integer n _ => toString n
  | .real x => x.text

/-- The integer, when the number is one and fits 64 bits with a sign. -/
def signed? : Number → Option Int
  | .integer n _ => if n ≤ 9223372036854775807 then some n else none
  | .real _ => none

/-- The natural number, when the number is an integer and not negative. -/
def natural? : Number → Option Nat
  | .integer n _ => if 0 ≤ n then some n.toNat else none
  | .real _ => none

/-- The nearest float. -/
def toReal : Number → Real64
  | .integer n _ => .ofInt n
  | .real x => .finite x

/-- An integer moved to the nearer end of the signed 64-bit range when it lies outside. -/
def clampSigned (n : Int) : Int :=
  max (-9223372036854775808) (min n 9223372036854775807)

/-- The number as a signed 64-bit integer: a fraction is cut off, and what does not fit is moved to
the end of the range. -/
def toSigned (x : Number) : Int :=
  match x.signed? with
  | some n => n
  | none =>
    match x.toReal with
    | .finite r => clampSigned r.truncate
    | _ => 0

/-- Numerical equality within a kind; an integer never equals a float. -/
def same : Number → Number → Bool
  | .integer n _, .integer m _ => n == m
  | .real x, .real y => x.same y
  | _, _ => false

end Number

end FlowRunner
