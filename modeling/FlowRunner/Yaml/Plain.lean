import FlowRunner.Json.Value
import FlowRunner.Yaml.Node

/-!
# The meaning of YAML scalars

A plain scalar without a tag is null, a truth value, an integer, a float or, failing all of these, a
text. The four tags for these kinds ask for one of them; any other tag and any quoting makes a text.

Integers are decimal, or hexadecimal, octal or binary after `0x`, `0o` and `0b`. A row of digits
that starts with a superfluous zero is not a number. An integer that has no JSON form but fits 128
bits is an error (`none`), not a text.
-/

namespace FlowRunner.Yaml

/-- Whether a scalar is a word for null. -/
def isNullWord (s : List Char) : Bool :=
  [['~'], ['n', 'u', 'l', 'l'], ['N', 'u', 'l', 'l'], ['N', 'U', 'L', 'L']].contains s

/-- The truth value that a scalar names. -/
def truth? (s : List Char) : Option Bool :=
  if ["true", "True", "TRUE"].contains (String.ofList s) then some true
  else if ["false", "False", "FALSE"].contains (String.ofList s) then some false
  else none

/-- The text after one sign. -/
def unsigned : List Char → List Char
  | '+' :: rest => rest
  | '-' :: rest => rest
  | s => s

/-- Whether a text begins with a sign. -/
def signed : List Char → Bool
  | '+' :: _ => true
  | '-' :: _ => true
  | _ => false

/-- Whether a scalar is a row of digits with a superfluous zero in front. -/
def hasIdleZero (s : List Char) : Bool :=
  match unsigned s with
  | '0' :: d :: rest => (d :: rest).all Char.isDigit
  | _ => false

/-- A number without a sign that lies within a bound, in the base that its first characters say. -/
def magnitude? (within : Nat → Bool) (s : List Char) : Option Nat :=
  let inBase (base : Nat) (digits : List Char) : Option Nat :=
    (Reading.digits? base digits).filter within
  match s with
  | '0' :: 'x' :: rest => inBase 16 rest
  | '0' :: 'o' :: rest => inBase 8 rest
  | '0' :: 'b' :: rest => inBase 2 rest
  | _ => if hasIdleZero s then none else inBase 10 s

/-- A natural number that fits so many bits, with an optional plus sign. -/
def natural? (bits : Nat) (s : List Char) : Option Nat :=
  let body := match s with
    | '+' :: rest => rest
    | _ => s
  magnitude? (Reading.fits bits) body

/-- A negative number that fits so many bits; zero counts as one when it is written with the sign.
-/
def negative? (bits : Nat) (s : List Char) : Option Int :=
  match s with
  | '-' :: body =>
    (magnitude? (fun n => decide (n ≤ 1 <<< (bits - 1))) body).map fun n => -(n : Int)
  | _ => none

/-- The integer that a scalar is: `none` when it is not one, `some none` when it has no JSON form.
-/
def integer? (s : List Char) : Option (Option Value) :=
  match natural? 64 s with
  | some n => some (some (.ofInt n))
  | none =>
    match negative? 64 s with
    | some n => some (some (.ofInt n))
    | none =>
      if (natural? 128 s).isSome || (negative? 128 s).isSome then some none else none

/-- The float that a scalar is; a decimal that is too large is none. -/
def real? (s : List Char) : Option Real64 :=
  let text := String.ofList s
  let (plus, body) := match s with
    | '+' :: rest => (true, rest)
    | _ => (false, s)
  if plus && signed body then none
  else if [".inf", ".Inf", ".INF"].contains (String.ofList body) then some (.infinite false)
  else if ["-.inf", "-.Inf", "-.INF"].contains text then some (.infinite true)
  else if [".nan", ".NaN", ".NAN"].contains text then some .undefined
  else
    match Reading.real? body with
    | some (.finite x) => some (.finite x)
    | _ => none

/-- The value of a plain scalar without a tag. -/
def plainValue? (s : List Char) : Option Value :=
  if s.isEmpty || isNullWord s then some .null
  else
    match truth? s with
    | some b => some (.bool b)
    | none =>
      match integer? s with
      | some v => v
      | none =>
        match (if hasIdleZero s then none else real? s) with
        | some x => some (.ofReal x)
        | none => some (.text (String.ofList s))

/-- The tag of a basic kind, written in full. -/
def basicTag (name : String) : String :=
  "tag:yaml.org,2002:" ++ name

/-- Whether a tag is an application's own, of which nothing is known here. -/
def isLocalTag (tag : Option String) : Bool :=
  match tag with
  | some t => t.startsWith "!"
  | none => false

/-- The value of a scalar. -/
def Scalar.value? (s : Scalar) : Option Value :=
  let cs := s.text.toList
  match s.tag with
  | some tag =>
    if isLocalTag s.tag then none
    else if tag == basicTag "bool" then (truth? cs).map .bool
    else if tag == basicTag "int" then (integer? cs).bind id
    else if tag == basicTag "float" then (real? cs).map .ofReal
    else if tag == basicTag "null" then (if isNullWord cs then some .null else none)
    else some (.text s.text)
  | none => if s.style == .plain then plainValue? cs else some (.text s.text)

end FlowRunner.Yaml
