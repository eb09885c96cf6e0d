import FlowRunner.Number.Binary64

/-!
# Numbers written as text

Integers are an optional sign and ASCII digits, with no blanks; a reading fails when the number
does not fit the wanted width. Decimals are digits with an optional point and exponent, or the words
for infinity and the undefined value in any case; one that is too large is infinite.
-/

namespace FlowRunner.Reading

/-- Whether an integer fits 64 bits with a sign. -/
def FitsSigned (n : Int) : Prop := -9223372036854775808 ≤ n ∧ n ≤ 9223372036854775807

instance (n : Int) : Decidable (FitsSigned n) := by unfold FitsSigned; infer_instance

/-- The value of a digit in a base up to 16. -/
def digit? (base : Nat) (c : Char) : Option Nat :=
  let n := c.toNat
  let d :=
    if 48 ≤ n ∧ n ≤ 57 then n - 48
    else if 97 ≤ n ∧ n ≤ 102 then n - 87
    else if 65 ≤ n ∧ n ≤ 70 then n - 55
    else base
  if d < base then some d else none

/-- Reads digits onto the number read so far. -/
def digitsFrom (base : Nat) : (soFar : Nat) → List Char → Option Nat
  | n, [] => some n
  | n, c :: rest =>
    match digit? base c with
    | some d => digitsFrom base (n * base + d) rest
    | none => none

/-- A number written in digits only, at least one. -/
def digits? (base : Nat) : List Char → Option Nat
  | [] => none
  | s => digitsFrom base 0 s

/-- Whether a natural number fits so many bits. -/
def fits (bits n : Nat) : Bool :=
  n < 1 <<< bits

/-- A natural number of so many bits, with an optional plus sign. -/
def natural? (bits : Nat) (s : List Char) : Option Nat :=
  let body := match s with
    | '+' :: rest => rest
    | _ => s
  (digits? 10 body).filter (fits bits)

/-- An integer with an optional sign that fits 64 bits. -/
def signed? (s : List Char) : Option Int :=
  let value : Option Int := match s with
    | '+' :: rest => (digits? 10 rest).map Int.ofNat
    | '-' :: rest => (digits? 10 rest).map fun n => -(n : Int)
    | _ => (digits? 10 s).map Int.ofNat
  value.filter fun n => decide (FitsSigned n)

/-- A decimal `digits * 10 ^ exponent` of unlimited size; far outside the floats' range it is zero
or infinite without being multiplied out. -/
def realOfDecimal (negative : Bool) (digits : Nat) (exponent : Int) : Real64 :=
  if digits = 0 then .finite (.zero negative)
  else
    let size : Int := (Nat.repr digits).length + exponent
    if size > 400 then .infinite negative
    else if size < -400 then .finite (.zero negative)
    else .ofDecimal negative digits exponent

/-- The digits at the start of a text, and the rest. -/
def spanDigits (s : List Char) : List Char × List Char :=
  s.span Char.isDigit

/-- The exponent after its mark: a sign and digits, up to the end of the text. -/
def exponent? : List Char → Option Int
  | '+' :: rest => (digits? 10 rest).map Int.ofNat
  | '-' :: rest => (digits? 10 rest).map fun n => -(n : Int)
  | s => (digits? 10 s).map Int.ofNat

/-- An unsigned decimal: digits around an optional point, at least one in all, then an optional
exponent. -/
def unsignedReal? (negative : Bool) (s : List Char) : Option Real64 :=
  let (whole, rest) := spanDigits s
  let (fraction, rest) := match rest with
    | '.' :: more => spanDigits more
    | _ => ([], rest)
  if whole.isEmpty && fraction.isEmpty then none
  else
    let exponent := match rest with
      | [] => some 0
      | 'e' :: more => exponent? more
      | 'E' :: more => exponent? more
      | _ => none
    match exponent, digits? 10 (whole ++ fraction) with
    | some e, some n => some (realOfDecimal negative n (e - fraction.length))
    | _, _ => none

/-- Lower case for ASCII letters. -/
def lowerAscii (s : List Char) : List Char :=
  s.map Char.toLower

/-- A decimal, or a word for infinity or the undefined value, with an optional sign. -/
def real? (s : List Char) : Option Real64 :=
  let (negative, body) := match s with
    | '+' :: rest => (false, rest)
    | '-' :: rest => (true, rest)
    | _ => (false, s)
  let word := lowerAscii body
  if word = ['i', 'n', 'f'] ∨ word = ['i', 'n', 'f', 'i', 'n', 'i', 't', 'y'] then
    some (.infinite negative)
  else if word = ['n', 'a', 'n'] then some .undefined
  else unsignedReal? negative body

/-- The integer at the start of a text, after its leading blanks are gone: an optional sign and the
digits up to the first other character. -/
def leadingDigits : List Char → List Char
  | '+' :: rest => '+' :: rest.takeWhile Char.isDigit
  | '-' :: rest => '-' :: rest.takeWhile Char.isDigit
  | s => s.takeWhile Char.isDigit

end FlowRunner.Reading
