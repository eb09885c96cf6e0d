import FlowRunner.Number.Binary64

/-!
# The shortest decimal text of a float

Each float owns the interval of reals that round to it, its ends included when the mantissa is even.
`shortest` is the decimal with the fewest significant digits inside that interval, and of those the
one nearest to the float, a tie going to the even digit. On the grid of decimals with a given number
of digits only the two neighbours of the float need a look.

`Binary64.text` writes it: positional from `1e-5` up to `1e16`, otherwise with an exponent, and
always with a fraction or an exponent, so that no float reads as an integer.
-/

namespace FlowRunner

namespace Shortest

/-- A non-zero magnitude in quarters of the last mantissa place, with the ends of the interval
that rounds to it. The unit is `2 ^ unit`. -/
structure Span where
  low : Nat
  middle : Nat
  high : Nat
  unit : Int
  /-- Whether the ends belong to the interval. -/
  closed : Bool

/-- The span of a float. Below a power of two the neighbour is only half as far away. -/
def span (x : Binary64) : Span where
  low := if x.mantissa = 4503599627370496 ∧ -1074 < x.exponent then 4 * x.mantissa - 1
    else 4 * x.mantissa - 2
  middle := 4 * x.mantissa
  high := 4 * x.mantissa + 2
  unit := x.exponent - 2
  closed := x.mantissa % 2 == 0

/-- `n` units of the span, over the scale that `gridValue` uses as well. -/
def spanValue (unit place : Int) (n : Nat) : Nat :=
  (n <<< unit.toNat) * Nat.pow 10 (-place).toNat

/-- `c * 10 ^ place`, over the scale that `spanValue` uses as well. -/
def gridValue (unit place : Int) (c : Nat) : Nat :=
  c * (Nat.pow 10 place.toNat <<< (-unit).toNat)

/-- Whether `c * 10 ^ place` rounds to the float. -/
def Span.holds (s : Span) (place : Int) (c : Nat) : Bool :=
  let v := gridValue s.unit place c
  let low := spanValue s.unit place s.low
  let high := spanValue s.unit place s.high
  if s.closed then low ≤ v && v ≤ high else low < v && v < high

/-- The neighbour of the float on the grid `10 ^ place` that rounds to it, the nearer if both do. -/
def Span.onGrid? (s : Span) (place : Int) : Option Nat :=
  let middle := spanValue s.unit place s.middle
  let below := middle / gridValue s.unit place 1
  let above := below + 1
  match s.holds place below, s.holds place above with
  | false, false => none
  | true, false => some below
  | false, true => some above
  | true, true =>
    let toBelow := middle - gridValue s.unit place below
    let toAbove := gridValue s.unit place above - middle
    if toBelow < toAbove ∨ (toBelow = toAbove ∧ below % 2 = 0) then some below else some above

/-- The exponent `k` with `10 ^ k ≤ magnitude < 10 ^ (k + 1)`. -/
def decade (x : Binary64) : Int :=
  let (n, d) := x.ratio
  let guess : Int := (binade n d * 30103) / 100000
  let next := guess + 1
  if d * Nat.pow 10 next.toNat ≤ n * Nat.pow 10 (-next).toNat then next else guess

/-- Tries grids of `digits`, `digits + 1`, … significant digits, `tries` of them. -/
def search (s : Span) (top : Int) : (tries digits : Nat) → Nat × Int
  | 0, digits => (spanValue s.unit (top - digits) s.middle / gridValue s.unit (top - digits) 1,
      top - digits)
  | tries + 1, digits =>
    match s.onGrid? (top + 1 - digits) with
    | some c => (c, top + 1 - digits)
    | none => search s top tries (digits + 1)

/-- A decimal without the zeros at its end. -/
def stripZeros : (fuel : Nat) → Nat → Int → Nat × Int
  | 0, c, place => (c, place)
  | fuel + 1, c, place =>
    if c % 10 = 0 ∧ c ≠ 0 then stripZeros fuel (c / 10) (place + 1) else (c, place)

end Shortest

namespace Binary64

/-- The shortest decimal `(c, p)`, standing for `c * 10 ^ p`, that rounds to a non-zero float. -/
def shortest (x : Binary64) : Nat × Int :=
  let (c, place) := Shortest.search (Shortest.span x) (Shortest.decade x) 17 1
  Shortest.stripZeros 18 c place

/-- The text of a decimal: positional when its point falls from five places before the digits to
sixteen after their start, otherwise with an exponent, whose sign is always written. -/
def decimalText (digits : List Char) (place : Int) : List Char :=
  let count : Int := digits.length
  let point := count + place
  if 0 < point ∧ point ≤ 16 then
    if 0 ≤ place then digits ++ List.replicate place.toNat '0' ++ ['.', '0']
    else digits.take point.toNat ++ '.' :: digits.drop point.toNat
  else if -5 < point ∧ point ≤ 0 then
    '0' :: '.' :: (List.replicate (-point).toNat '0' ++ digits)
  else
    let fraction := match digits.drop 1 with
      | [] => []
      | more => '.' :: more
    let exponent := point - 1
    digits.take 1 ++ fraction ++ 'e' :: (if exponent < 0 then '-' else '+') ::
      (Nat.repr exponent.natAbs).toList

/-- The characters of a float's text. -/
def textChars (x : Binary64) : List Char :=
  let magnitude :=
    if x.mantissa = 0 then ['0', '.', '0']
    else
      let (c, place) := x.shortest
      decimalText (Nat.repr c).toList place
  if x.negative then '-' :: magnitude else magnitude

/-- The text of a float. -/
def text (x : Binary64) : String :=
  String.ofList x.textChars

end Binary64

end FlowRunner
