import FlowRunner.Json.Value

/-!
# Parameter stores

A store is the only state of a run: values under keys, in an order. The last write of a key wins and
keeps the key's place; a new key goes to the end, and the last key moves into the place of a removed
one.
-/

namespace FlowRunner

/-- The parameters of a run. No key comes twice. -/
@[ext]
structure Store where
  entries : List (String × Value)
  distinct : Members.Distinct entries

namespace Store

/-- No parameters. -/
def empty : Store := ⟨[], Members.distinct_nil⟩

instance : Inhabited Store := ⟨empty⟩

/-- The value under a key. -/
def get? (store : Store) (key : String) : Option Value :=
  Members.get? key store.entries

/-- Whether a key is present. -/
def contains (store : Store) (key : String) : Bool :=
  Members.has key store.entries

/-- Sets a value. -/
def insert (store : Store) (key : String) (value : Value) : Store :=
  ⟨Members.put key value store.entries, Members.distinct_put store.distinct key value⟩

/-- Removes a key. -/
def erase (store : Store) (key : String) : Store :=
  ⟨Members.erase key store.entries, Members.distinct_erase store.distinct key⟩

/-- Sets every given pair in turn. -/
def insertAll (store : Store) (pairs : List (String × Value)) : Store :=
  ⟨Members.merge store.entries pairs, Members.distinct_merge store.distinct pairs⟩

/-- Sets every value of another store. -/
def merge (store other : Store) : Store :=
  store.insertAll other.entries

/-- The store made by setting every pair in turn. -/
def ofPairs (pairs : List (String × Value)) : Store :=
  empty.insertAll pairs

/-- The store a run is seeded with: a workflow's own parameters under the overrides, if there are
any. -/
def seeded (seed : Store) (overrides : Option Store) : Store :=
  match overrides with
  | some other => seed.merge other
  | none => seed

/-- The keys, in order. -/
def keys (store : Store) : List String :=
  Members.keys store.entries

/-- The number of keys. -/
def size (store : Store) : Nat :=
  store.entries.length

/-- Whether there are no keys. -/
def isEmpty (store : Store) : Bool :=
  store.entries.isEmpty

/-- The store as an object. -/
def toValue (store : Store) : Value :=
  .object store.entries

theorem get?_insert_self (store : Store) (key : String) (value : Value) :
    (store.insert key value).get? key = some value :=
  Members.get?_put_self key value store.entries

theorem get?_insert_of_ne (store : Store) {key other : String} (h : other ≠ key) (value : Value) :
    (store.insert key value).get? other = store.get? other :=
  Members.get?_put_of_ne h value store.entries

end Store

end FlowRunner
