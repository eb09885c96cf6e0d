import FlowRunner.Json.Number
import FlowRunner.Number.Reading

/-!
# JSON number literals

A literal without fraction and exponent that fits 64 bits is an integer. Every other literal is a
float: the first digits that fit an unsigned 64-bit word are taken as a whole, converted once, and
scaled by one multiplication or division with a power of ten (several divisions for exponents below
`-308`). For up to fifteen digits and small exponents this is the nearest float; in general it can
be off by a last place. A literal past the largest float has no value.
-/

namespace FlowRunner.Json

/-- The parts of a number literal. -/
structure Literal where
  negative : Bool
  /-- Digits before the point, at least one. -/
  whole : List Char
  /-- Digits after the point, when there is one. -/
  fraction : Option (List Char)
  /-- Sign and digits of the exponent, when there is one; `true` stands for minus. -/
  exponent : Option (Bool × List Char)

namespace Literal

/-- The value of a digit character. -/
def digitValue (c : Char) : Nat :=
  c.toNat - 48

/-- Appends a digit to a 64-bit word, unless that overflows. -/
def push? (word : Nat) (c : Char) : Option Nat :=
  let next := word * 10 + digitValue c
  if Reading.fits 64 next then some next else none

/-- The word made of the first digits that fit, and the number of digits left over. -/
def wholeWord : (word : Nat) → List Char → Nat × Nat
  | word, [] => (word, 0)
  | word, c :: rest =>
    match push? word c with
    | some next => wholeWord next rest
    | none => (word, rest.length + 1)

/-- The word with the digits of a fraction appended while they fit, and their number. -/
def fractionWord : (word count : Nat) → List Char → Nat × Nat
  | word, count, [] => (word, count)
  | word, count, c :: rest =>
    match push? word c with
    | some next => fractionWord next (count + 1) rest
    | none => (word, count)

/-- A power of ten as a float. -/
def powerOfTen (n : Nat) : Real64 :=
  .ofRatio false (Nat.pow 10 n) 1

/-- Scales a float by a power of ten; `none` when the result is too large. -/
def scale : (rounds : Nat) → Real64 → Int → Option Real64
  | 0, x, _ => some x
  | rounds + 1, x, e =>
    if e.natAbs ≤ 308 then
      if 0 ≤ e then
        match x.mul (powerOfTen e.toNat) with
        | .finite y => some (.finite y)
        | _ => none
      else some (x.div (powerOfTen e.natAbs))
    else
      match x with
      | .finite y =>
        if y.isZero then some x
        else if 0 ≤ e then none
        else scale rounds (x.div (powerOfTen 308)) (e + 308)
      | _ => none

/-- The float of a word and a decimal exponent; four divisions reach zero. -/
def realOfWord (negative : Bool) (word : Nat) (e : Int) : Option Number :=
  match scale 5 (.ofNat word) e with
  | some (.finite x) => some (.real (if negative then x.negate else x))
  | _ => none

/-- The value of an exponent's digits, kept within 32 bits; `none` past that. -/
def exponentValue? (digits : List Char) : Option Int :=
  (Reading.digits? 10 digits).bind fun n => if Reading.fits 31 n then some (n : Int) else none

/-- The number of a literal; `none` when it is past the largest float. -/
def toNumber? (l : Literal) : Option Number :=
  let (word, more) := wholeWord 0 l.whole
  match l.fraction, l.exponent with
  | none, none =>
    if more = 0 then
      if l.negative then
        if h : 0 < word ∧ word ≤ 9223372036854775808 then
          some (.integer (-(word : Int)) (by unfold Number.InRange; omega))
        else realOfWord true word 0
      else if h : word ≤ 18446744073709551615 then
        some (.integer word (by unfold Number.InRange; omega))
      else none
    else realOfWord l.negative word more
  | fraction, exponent =>
    let (word, count) := fractionWord word 0 (fraction.getD [])
    let start : Int := (more : Int) - count
    match exponent with
    | none => realOfWord l.negative word start
    | some (minus, digits) =>
      match exponentValue? digits with
      | some e => realOfWord l.negative word (if minus then start - e else start + e)
      | none =>
        if word = 0 ∨ minus then some (.real (.zero l.negative)) else none

end Literal

end FlowRunner.Json
