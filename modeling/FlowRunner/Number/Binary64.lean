/-!
# Finite 64-bit binary floats

A finite float is a sign, a mantissa below `2 ^ 53` and an exponent; it stands for
`± mantissa * 2 ^ exponent`. The three parts are unique for every value but zero, which has two
signs. `Real64` adds the infinities and the undefined value.

Every operation rounds an exact quotient of natural numbers once, to the nearest float, a tie going
to the even mantissa (`Real64.ofRatio`).
-/

namespace FlowRunner

/-- The parts that name a float: a mantissa of 53 bits, or of fewer when the exponent is least. -/
def Binary64.Canonical (mantissa : Nat) (exponent : Int) : Prop :=
  mantissa < 9007199254740992 ∧ -1074 ≤ exponent ∧ exponent ≤ 971 ∧
    (4503599627370496 ≤ mantissa ∨ exponent = -1074)

instance (mantissa : Nat) (exponent : Int) : Decidable (Binary64.Canonical mantissa exponent) := by
  unfold Binary64.Canonical; infer_instance

/-- A finite 64-bit float. -/
structure Binary64 where
  negative : Bool
  mantissa : Nat
  exponent : Int
  canonical : Binary64.Canonical mantissa exponent
  deriving DecidableEq

/-- A 64-bit float: finite, infinite, or undefined. -/
inductive Real64
  | finite (value : Binary64)
  | infinite (negative : Bool)
  | undefined
  deriving DecidableEq

namespace Binary64

/-- Zero, with a sign. -/
def zero (negative : Bool) : Binary64 :=
  ⟨negative, 0, -1074, by decide⟩

instance : Inhabited Binary64 := ⟨zero false⟩

/-- The largest natural number not above the magnitude. -/
def floorMagnitude (x : Binary64) : Nat :=
  if 0 ≤ x.exponent then x.mantissa <<< x.exponent.toNat else x.mantissa >>> (-x.exponent).toNat

/-- Whether the value is an integer. -/
def isInteger (x : Binary64) : Bool :=
  0 ≤ x.exponent || x.mantissa % (1 <<< (-x.exponent).toNat) == 0

/-- The integer part: the value rounded toward zero. -/
def truncate (x : Binary64) : Int :=
  if x.negative then -(x.floorMagnitude : Int) else x.floorMagnitude

/-- Whether the value is zero, of either sign. -/
def isZero (x : Binary64) : Bool :=
  x.mantissa == 0

/-- The value with the other sign. -/
def negate (x : Binary64) : Binary64 :=
  ⟨!x.negative, x.mantissa, x.exponent, x.canonical⟩

/-- Numerical equality: the two zeros are equal. -/
def same (x y : Binary64) : Bool :=
  (x.isZero && y.isZero) ||
    (x.negative == y.negative && x.mantissa == y.mantissa && x.exponent == y.exponent)

/-- The magnitude as a quotient of natural numbers. -/
def ratio (x : Binary64) : Nat × Nat :=
  (x.mantissa <<< x.exponent.toNat, 1 <<< (-x.exponent).toNat)

end Binary64

/-- A quotient rounded to the nearest natural number, a tie to the even one. -/
def roundQuotient (n d : Nat) : Nat :=
  let q := n / d
  let r := n % d
  if 2 * r < d ∨ (2 * r = d ∧ q % 2 = 0) then q else q + 1

/-- The exponent `k` with `2 ^ k ≤ n / d < 2 ^ (k + 1)`, for positive `n` and `d`. -/
def binade (n d : Nat) : Int :=
  let k : Int := (n.log2 : Int) - d.log2
  if d <<< k.toNat ≤ n <<< (-k).toNat then k else k - 1

namespace Real64

/-- A float from its parts; parts that name no float are past the largest one. -/
def ofParts (negative : Bool) (mantissa : Nat) (exponent : Int) : Real64 :=
  if h : Binary64.Canonical mantissa exponent then .finite ⟨negative, mantissa, exponent, h⟩
  else .infinite negative

/-- The float nearest to `n / d`, a tie to the even mantissa; infinite past the largest float. -/
def ofRatio (negative : Bool) (n d : Nat) : Real64 :=
  if n = 0 then .finite (.zero negative)
  else
    let e : Int := max (-1074) (binade n d - 52)
    let m := roundQuotient (n <<< (-e).toNat) (d <<< e.toNat)
    if m = 9007199254740992 then ofParts negative 4503599627370496 (e + 1) else ofParts negative m e

/-- The float nearest to a natural number. -/
def ofNat (n : Nat) : Real64 :=
  ofRatio false n 1

/-- The float nearest to an integer. -/
def ofInt (n : Int) : Real64 :=
  ofRatio (n < 0) n.natAbs 1

/-- The float nearest to `digits * 10 ^ exponent`. -/
def ofDecimal (negative : Bool) (digits : Nat) (exponent : Int) : Real64 :=
  ofRatio negative (digits * Nat.pow 10 exponent.toNat) (Nat.pow 10 (-exponent).toNat)

/-- The value with the other sign. -/
def negate : Real64 → Real64
  | .finite x => .finite x.negate
  | .infinite negative => .infinite (!negative)
  | .undefined => .undefined

/-- The product of finite values, rounded once; any other operand makes it undefined. -/
def mul : Real64 → Real64 → Real64
  | .finite x, .finite y =>
    let (a, b) := x.ratio
    let (c, d) := y.ratio
    ofRatio (x.negative != y.negative) (a * c) (b * d)
  | _, _ => .undefined

/-- The quotient of finite values, rounded once; undefined for other operands and for a zero
divisor. -/
def div : Real64 → Real64 → Real64
  | .finite x, .finite y =>
    if y.isZero then .undefined
    else
      let (a, b) := x.ratio
      let (c, d) := y.ratio
      ofRatio (x.negative != y.negative) (a * d) (b * c)
  | _, _ => .undefined

end Real64

end FlowRunner
