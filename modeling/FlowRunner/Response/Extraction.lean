import FlowRunner.Flow.Step
import FlowRunner.Response.Path

/-!
# Keeping values of a result

A value map names keys of the store and what to keep under them: fields of the result under their
own names, or what paths lead to. Of a result that is a list, the first item is meant. A key for
which there is nothing is removed.
-/

namespace FlowRunner

namespace ValueMap

/-- The part of a result that is read: the first item of a list, null when it is empty. -/
def sourceOf : Value → Value
  | .list items => items.head?.getD .null
  | v => v

/-- What an entry reads: a text is a path to follow, anything else means all that is read. -/
def entryValue? (source : Value) : (entry : Value) → Option Value
  | .text expression => source.lookup? expression.toList
  | _ => some source

/-- What is written: every key with its value, or nothing for a key that is removed. -/
def readings (valueMap : ValueMap) (source : Value) : List (String × Option Value) :=
  match valueMap with
  | .fields names => names.map fun name => (name, source.member? name)
  | .paths entries => entries.map fun (key, entry) => (key, entryValue? source entry)

end ValueMap

namespace Store

/-- Sets a key to a value, or removes it when there is none. -/
def record (store : Store) (key : String) (value : Option Value) : Store :=
  match value with
  | some v => store.insert key v
  | none => store.erase key

/-- The store with the values of a result that a value map names. -/
def extract (store : Store) (valueMap : ValueMap) (result : Value) : Store :=
  (valueMap.readings (ValueMap.sourceOf result)).foldl
    (fun soFar reading => soFar.record reading.1 reading.2) store

end Store

/-- How many keys a value map finds a value for. -/
def ValueMap.found (valueMap : ValueMap) (result : Value) : Nat :=
  (valueMap.readings (sourceOf result)).countP fun reading => reading.2.isSome

end FlowRunner
