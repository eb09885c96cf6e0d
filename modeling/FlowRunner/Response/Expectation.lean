import FlowRunner.Json.Printer

/-!
# Expected responses

An expected value has the form of the response. An object names the keys that are looked at, a list
is compared position by position, a scalar matches anything with the same text, and null matches
null or nothing. Keys and items that are not expected are free.

`Mismatch.find?` gives the first place, in the order in which the expectation is written, that does
not match.
-/

namespace FlowRunner

/-- The text by which scalars are compared: a whole float of at most fifteen digits is written like
the integer. -/
def Value.comparable : Value → String
  | .text s => s
  | .number (.real x) =>
    if x.isInteger && x.floorMagnitude < 1000000000000000 then toString x.truncate
    else (Number.real x).text
  | v => v.compact

/-- A place where the response is not as expected. -/
structure Mismatch where
  path : String
  expected : String
  actual : String
  deriving DecidableEq, Repr

namespace Mismatch

/-- The wording of a mismatch. -/
def message (m : Mismatch) : String :=
  "Key: " ++ m.path ++ " Expected: " ++ m.expected ++ " Actual: " ++ m.actual

/-- The mismatch at a path. -/
def here (path : String) (expected : Value) (actual : Option Value) : Mismatch where
  path := if path.isEmpty then "response" else path
  expected := expected.comparable
  actual :=
    match actual with
    | some v => v.comparable
    | none => "<missing>"

/-- The path of an item. -/
def itemPath (path : String) (index : Nat) : String :=
  path ++ "[" ++ toString index ++ "]"

/-- The path of a member. -/
def memberPath (path key : String) : String :=
  if path.isEmpty then key else path ++ "/" ++ key

mutual

/-- The first mismatch at or below a path. -/
def below? (expected : Value) (actual : Option Value) (path : String) : Option Mismatch :=
  match expected with
  | .list items => inItems? items 0 actual path
  | .object members => inMembers? members actual path
  | .null =>
    match actual with
    | none => none
    | some .null => none
    | some v => some (Mismatch.here path .null (some v))
  | scalar =>
    match actual with
    | some v =>
      if v.comparable == scalar.comparable then none else some (Mismatch.here path scalar (some v))
    | none => some (Mismatch.here path scalar none)

/-- The first mismatch among items, of which the first has a position. -/
def inItems? (items : List Value) (index : Nat) (actual : Option Value) (path : String) :
    Option Mismatch :=
  match items with
  | [] => none
  | item :: rest =>
    match below? item (actual.bind (Value.item? index)) (itemPath path index) with
    | some m => some m
    | none => inItems? rest (index + 1) actual path

/-- The first mismatch among members. -/
def inMembers? (members : List (String × Value)) (actual : Option Value) (path : String) :
    Option Mismatch :=
  match members with
  | [] => none
  | (key, item) :: rest =>
    match below? item (actual.bind (Value.member? key)) (memberPath path key) with
    | some m => some m
    | none => inMembers? rest actual path

end

/-- The first mismatch of a response. -/
def find? (expected actual : Value) : Option Mismatch :=
  below? expected (some actual) ""

end Mismatch

end FlowRunner
