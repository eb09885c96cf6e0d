import FlowRunner.Flow.Store
import FlowRunner.Json.Printer
import FlowRunner.Number.Reading
import FlowRunner.Text.Blank
import FlowRunner.Text.Cut

/-!
# Increments

The form `increment(key)` or `increment[key]` anywhere in a text stands for a whole number plus one:
the number stored under the key or, when nothing is stored there, the number that the key itself
starts with.

* `Increment.reference?` finds the form, at the first place where it is complete.
* `Increment.base?` is the number referred to. A number too large for 64 bits with a sign is never
  replaced by another one: it has no successor and the increment fails.
-/

namespace FlowRunner

/-- The text of a stored value inside other text; nothing and null are empty. -/
def Value.embedded : Option Value → String
  | none => ""
  | some .null => ""
  | some v => v.plain

/-- The key of a text that is one placeholder and nothing else. -/
def wholeKey? (s : List Char) : Option (List Char) :=
  match (Text.after? ['<', '<'] s).bind (Text.before? ['>', '>']) with
  | some key =>
    if key.isEmpty || Text.occursIn ['<', '<'] key || Text.occursIn ['>', '>'] key then none
    else some key
  | none => none

namespace Increment

/-- The word that starts the form. -/
def word : List Char := "increment".toList

/-- Opening brackets of the form. -/
def opens (c : Char) : Bool := c == '(' || c == '['

/-- Closing brackets of the form. -/
def closes (c : Char) : Bool := c == ')' || c == ']'

/-- What stands between the brackets of the form, after its word. -/
def content? (s : List Char) : Option (List Char) :=
  match s.dropWhile Text.isBlank with
  | c :: rest =>
    if opens c then
      let inside := rest.takeWhile fun c => !closes c
      if inside.isEmpty || inside.length == rest.length then none else some inside
    else none
  | [] => none

/-- What the first complete form in a text refers to, without blanks around it. -/
def reference? : List Char → Option (List Char)
  | [] => none
  | c :: rest =>
    match (Text.after? word (c :: rest)).bind content? with
    | some inside => some (Text.trim inside)
    | none => reference? rest

/-- The key of a reference, which may be written as a placeholder. -/
def keyOf (reference : List Char) : String :=
  String.ofList ((wholeKey? reference).getD reference)

/-- The whole number that a text starts with, after leading blanks. -/
def leading? (s : String) : Option Int :=
  Reading.signed? (Reading.leadingDigits (Text.trim s.toList))

/-- The whole number of a stored value; a fraction is cut off. -/
def ofValue? : Value → Option Int
  | .number n => some n.toSigned
  | .text s => leading? s
  | _ => none

/-- The number that a key refers to. -/
def base? (store : Store) (key : String) : Option Int :=
  match store.get? key with
  | some v => ofValue? v
  | none => leading? key

/-- The largest whole number of 64 bits with a sign. -/
def largest : Int := 9223372036854775807

/-- The successor of the number that a key refers to, or the text that is not the number of one. -/
def next (store : Store) (key : String) : Except String Value :=
  match base? store key with
  | some n => if n < largest then .ok (.ofInt (n + 1)) else .error (toString n)
  | none =>
    match store.get? key with
    | some v => .error (Value.embedded (some v))
    | none => .error key

end Increment

end FlowRunner
