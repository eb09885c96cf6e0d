import FlowRunner.Flow.Increment

/-!
# Paths into a response

A path such as `data/items[0]/id|int` is a list of segments and an optional conversion. A segment
enters an object by a key or a list by a position, and then goes on by the positions in brackets.

`Value.lookup?` reads a path expression in a value. A path that is not well formed leads nowhere,
like one that meets nothing.
-/

namespace FlowRunner

/-- What is made of the value at the end of a path. -/
inductive Conversion
  | unchanged
  | integer
  | float
  | text
  deriving DecidableEq, Repr

namespace Conversion

/-- The conversion of a name; names that are not known change nothing. -/
def ofName (name : String) : Conversion :=
  match name with
  | "int" => .integer
  | "float" => .float
  | "str" => .text
  | _ => .unchanged

/-- The converted value, when there is one. -/
def apply (conversion : Conversion) (v : Value) : Option Value :=
  match conversion with
  | .unchanged => some v
  | .integer => (Increment.ofValue? v).map .ofInt
  | .float =>
    match v with
    | .number n => some (.ofReal n.toReal)
    | .text s => (Reading.real? (Text.trim s.toList)).map .ofReal
    | _ => none
  | .text => some (.text v.plain)

end Conversion

/-- One segment of a path. -/
structure Segment where
  /-- A key or a position; empty to stay in place. -/
  name : List Char
  /-- The positions in brackets. -/
  indices : List Nat

namespace Segment

/-- A position: a natural number of 64 bits. -/
def position? (s : List Char) : Option Nat :=
  Reading.natural? 64 s

/-- The positions in brackets at the start of a text; what follows the last bracket is not looked
at. -/
def indices? : List Char → Option (List Nat)
  | '[' :: rest =>
    match _h : Text.cut? ']' rest with
    | none => none
    | some (inside, after) =>
      match position? (Text.trim inside) with
      | none => none
      | some index => (indices? after).map (index :: ·)
  | _ => some []
termination_by s => s.length
decreasing_by
  have := congrArg List.length (Text.eq_of_cut? _h)
  simp at this ⊢
  omega

/-- The segment of a text. -/
def ofText? (s : List Char) : Option Segment :=
  let name := s.takeWhile (· != '[')
  (indices? (s.drop name.length)).map fun indices => ⟨name, indices⟩

/-- The value under a key of an object or at a position of a list. -/
def enter? (name : List Char) : Value → Option Value
  | .object members => Members.get? (String.ofList name) members
  | .list items => (position? name).bind fun index => items[index]?
  | _ => none

/-- The value that a segment leads to. -/
def follow? (segment : Segment) (v : Value) : Option Value :=
  let start := if segment.name.isEmpty then some v else enter? segment.name v
  segment.indices.foldl (fun found index => found.bind (Value.item? index)) start

end Segment

namespace Path

/-- The segments of a path text; blank ones do not count. -/
def segments? (s : List Char) : Option (List Segment) :=
  let parts := ((Text.splitOn '/' s).map Text.trim).filter fun part => !part.isEmpty
  parts.mapM Segment.ofText?

/-- The value that segments lead to. -/
def follow? : List Segment → Value → Option Value
  | [], v => some v
  | segment :: rest, v => (segment.follow? v).bind (follow? rest)

end Path

/-- The value that a path expression reads. -/
def Value.lookup? (expression : List Char) (v : Value) : Option Value := do
  let (path, conversion) :=
    match Text.cut? '|' expression with
    | some (path, name) => (path, Conversion.ofName (String.ofList (Text.trim name)))
    | none => (expression, .unchanged)
  let segments ← Path.segments? path
  let found ← Path.follow? segments v
  conversion.apply found

end FlowRunner
