import FlowRunner.Json.Members
import FlowRunner.Json.Number

/-!
# JSON values

An object is the list of its members in order. The type of values is nested in that of the members,
so it cannot say that no key comes twice among them; the readers of values see to it, and so do the
operations of `Members`.
-/

namespace FlowRunner

/-- A JSON value; the members of an object keep their order. -/
inductive Value
  | null
  | bool (value : Bool)
  | number (value : Number)
  | text (value : String)
  | list (items : List Value)
  | object (members : List (String × Value))
  deriving Inhabited

namespace Value

/-- A float as a value; the infinities and the undefined value have no JSON form and become null. -/
def ofReal : Real64 → Value
  | .finite x => .number (.real x)
  | _ => .null

/-- A list of texts. -/
def ofTexts (texts : List String) : Value :=
  .list (texts.map .text)

/-- An integer that fits; null otherwise. -/
def ofInt (n : Int) : Value :=
  match Number.ofInt? n with
  | some x => .number x
  | none => .null

/-- The text, of a text value. -/
def asText? : Value → Option String
  | .text s => some s
  | _ => none

/-- Whether the value is null. -/
def isNull : Value → Bool
  | .null => true
  | _ => false

/-- The value under a key, of an object. -/
def member? (key : String) : Value → Option Value
  | .object members => Members.get? key members
  | _ => none

/-- The value at a position, of a list. -/
def item? (index : Nat) : Value → Option Value
  | .list items => items[index]?
  | _ => none

mutual

/-- Equality that ignores the order of members: numbers of one kind by value, all else exactly. -/
def same : Value → Value → Bool
  | .null, .null => true
  | .bool a, .bool b => a == b
  | .number a, .number b => a.same b
  | .text a, .text b => a == b
  | .list as, .list bs => sameItems as bs
  | .object as, .object bs => as.length == bs.length && sameMembers as bs
  | _, _ => false

/-- Position by position. -/
def sameItems : List Value → List Value → Bool
  | [], [] => true
  | a :: as, b :: bs => same a b && sameItems as bs
  | _, _ => false

/-- Whether every member of the first object has an equal member in the second. -/
def sameMembers : List (String × Value) → List (String × Value) → Bool
  | [], _ => true
  | (k, a) :: as, bs =>
    (match Members.get? k bs with
      | some b => same a b
      | none => false) && sameMembers as bs

end

end Value

end FlowRunner
