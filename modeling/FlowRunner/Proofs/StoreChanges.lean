import FlowRunner.Proofs.Extraction
import FlowRunner.Proofs.Placeholders
import Mathlib.Data.Finset.Card
import Mathlib.Logic.Function.Basic

/-!
# Changes of a store

Whatever is done to a store comes down to changes of one key at a time, which is set or removed.
`Store.Alters` is what a change does to an ordered map: what stands under the keys, and the places
of the keys. `Store.Follows` is a sequence of such changes.

* `Store.alters_record`: setting and removing are changes of this kind.
* `Store.Operation.apply_eq_altered`: an operation is the sequence of its changes. Resolving a store
  writes every key again, and writes nothing when it fails.
* `Store.behaves_as_map`: a store is a map after any operations, and a key holds what was written to
  it last.
-/

namespace FlowRunner

namespace Store

/-- A key with what it holds from then on, which is nothing when the key is removed. -/
abbrev Change := String × Option Value

/-- What a change of an ordered map does: `next` is the map after it. -/
structure Alters (store : Store) (change : Change) (next : Store) : Prop where
  held : next.get? = Function.update store.get? change.1 change.2
  replaced : change.2.isSome = true → change.1 ∈ store.keys → next.keys = store.keys
  added : change.2.isSome = true → change.1 ∉ store.keys → next.keys = store.keys ++ [change.1]
  absent : change.2 = none → change.1 ∉ store.keys → next = store
  removedLast : change.2 = none → ∀ before, store.keys = before ++ [change.1] → next.keys = before
  /-- Of the keys that stay, only the last one moves, into the freed place. -/
  removed : change.2 = none → ∀ before between last,
    store.keys = before ++ change.1 :: (between ++ [last]) →
      next.keys = before ++ last :: between

/-- A store comes out of another one by changes in turn. -/
inductive Follows : Store → List Change → Store → Prop
  | nil (store : Store) : Follows store [] store
  | cons {store mid next : Store} {change : Change} {rest : List Change}
    (hfirst : store.Alters change mid) (hrest : Follows mid rest next) :
    Follows store (change :: rest) next

/-- A store is a map from keys to values: what it tells about its keys agrees with what stands under
them. -/
structure IsMap (store : Store) : Prop where
  distinct : store.keys.Nodup
  mem_keys : ∀ key, key ∈ store.keys ↔ ∃ value, store.get? key = some value
  size : store.size = store.keys.toFinset.card
  isEmpty : store.isEmpty = true ↔ ∀ key, store.get? key = none
  contains : ∀ key, store.contains key = true ↔ ∃ value, store.get? key = some value

theorem isMap (store : Store) : store.IsMap where
  distinct := store.distinct
  mem_keys := by
    intro key
    rw [← Option.ne_none_iff_exists', ne_eq, get?, Members.get?_eq_none_iff, not_not]
    rfl
  size := by
    have hcard : store.keys.toFinset.card = store.keys.length := 
      List.toFinset_card_of_nodup store.distinct
    rw [hcard, keys, Members.keys, List.length_map]
    rfl
  isEmpty := by
    rw [isEmpty, List.isEmpty_iff]
    constructor
    · intro hnil key
      rw [get?, hnil, Members.get?_nil]
    · intro hnone
      cases hentries : store.entries with
      | nil => rfl
      | cons entry rest =>
        have hfirst := hnone entry.1
        rw [get?, hentries, Members.get?_eq_none_iff] at hfirst
        exact absurd List.mem_cons_self hfirst
  contains := by
    intro key
    rw [contains, Members.has, Option.isSome_iff_exists]
    rfl

/-! ## Single changes -/

theorem keys_record_of_some {key : String} {value : Option Value} (store : Store)
    (h : value.isSome = true) :
    (store.record key value).keys =
      if key ∈ store.keys then store.keys else store.keys ++ [key] := by
  obtain ⟨v, rfl⟩ := Option.isSome_iff_exists.mp h
  exact Members.keys_put key v store.entries

/-- Setting and removing a key changes the store as a map is changed. -/
theorem alters_record (store : Store) (change : Change) :
    store.Alters change (store.record change.1 change.2) := by
  obtain ⟨key, value⟩ := change
  -- The key stands at one place only, so that nothing before it is the key.
  have hfresh : ∀ {before after}, store.keys = before ++ key :: after → key ∉ before := by
    intro before after hkeys
    have hnodup : (before ++ key :: after).Nodup := hkeys ▸ store.distinct
    rw [List.nodup_append] at hnodup
    exact fun hmem => hnodup.2.2 key hmem key List.mem_cons_self rfl
  constructor
  · funext other
    rw [get?_record, Function.update_apply]
  · intro hsome hkey
    rw [keys_record_of_some store hsome, if_pos hkey]
  · intro hsome hkey
    rw [keys_record_of_some store hsome, if_neg hkey]
  · rintro rfl hkey
    exact Store.ext (Members.erase_of_not_mem hkey)
  · rintro rfl before hkeys
    have herase := Members.keys_erase hkeys (hfresh hkeys)
    rw [List.getLast?_nil, List.dropLast_nil, Option.toList_none, List.append_nil,
      List.append_nil] at herase
    exact herase
  · rintro rfl before between last hkeys
    have herase := Members.keys_erase hkeys (hfresh hkeys)
    rw [List.getLast?_concat, List.dropLast_concat] at herase
    exact herase

/-- The store after changes in turn. -/
def altered (store : Store) (changes : List Change) : Store :=
  changes.foldl (fun soFar change => soFar.record change.1 change.2) store

theorem altered_append (store : Store) (changes more : List Change) :
    store.altered (changes ++ more) = (store.altered changes).altered more :=
  List.foldl_append

theorem follows_altered (store : Store) (changes : List Change) :
    store.Follows changes (store.altered changes) := by
  induction changes generalizing store with
  | nil => exact .nil store
  | cons change rest ih => exact .cons (store.alters_record change) (ih _)

/-- After changes of the empty store, a key holds what was written to it last, unless it was removed
after that. -/
theorem get?_altered_empty {changes : List Change} {key : String} {value : Value} :
    (empty.altered changes).get? key = some value ↔
      ∃ before after, changes = before ++ (key, some value) :: after ∧
        ∀ change ∈ after, change.1 ≠ key := by
  have hlast : (empty.altered changes).get? key = some value ↔
      Members.get? key changes.reverse = some (some value) := by
    rw [altered, get?_foldl_record]
    cases Members.get? key changes.reverse with
    | some change => simp
    | none => simp [empty, get?]
  have hkeys : ∀ after : List Change,
      key ∉ Members.keys after.reverse ↔ ∀ change ∈ after, change.1 ≠ key := by
    intro after
    rw [Members.keys_reverse, List.mem_reverse, Members.keys, List.mem_map]
    refine ⟨fun h change hchange heq => h ⟨change, hchange, heq⟩, ?_⟩
    rintro h ⟨change, hchange, heq⟩
    exact h change hchange heq
  rw [hlast, Members.get?_eq_some_iff_exists]
  constructor
  · rintro ⟨after, before, hchanges, hkey⟩
    refine ⟨before.reverse, after.reverse, ?_, ?_⟩
    · rw [← List.reverse_reverse changes, hchanges]
      simp
    · rw [← hkeys, List.reverse_reverse]
      exact hkey
  · rintro ⟨before, after, rfl, hkey⟩
    exact ⟨after.reverse, before.reverse, by simp, (hkeys after).mpr hkey⟩

/-! ## Operations -/

/-- The changes that write members in turn. -/
def writes (members : List (String × Value)) : List Change :=
  members.map fun member => (member.1, some member.2)

theorem altered_writes (store : Store) (members : List (String × Value)) :
    store.altered (writes members) = store.insertAll members := by
  induction members generalizing store with
  | nil => rfl
  | cons member rest ih => exact ih (store.insert member.1 member.2)

/-- What can be done to a store. -/
inductive Operation
  | insert (key : String) (value : Value)
  | erase (key : String)
  | merge (other : Store)
  | extract (valueMap : ValueMap) (result : Value)
  | resolve

namespace Operation

/-- The store after an operation; one that fails to be resolved stays as it is. -/
def apply (store : Store) : Operation → Store
  | insert key value => store.insert key value
  | erase key => store.erase key
  | merge other => store.merge other
  | extract valueMap result => store.extract valueMap result
  | resolve =>
    match store.resolved with
    | .ok next => next
    | .error _ => store

/-- The changes that an operation on a store makes. -/
def changes (store : Store) : Operation → List Change
  | insert key value => [(key, some value)]
  | erase key => [(key, none)]
  | merge other => writes other.entries
  | extract valueMap result => valueMap.readings (ValueMap.sourceOf result)
  | resolve =>
    match store.resolved with
    | .ok next => writes next.entries
    | .error _ => []

theorem apply_eq_altered (store : Store) (operation : Operation) :
    operation.apply store = store.altered (operation.changes store) := by
  cases operation with
  | insert key value => rfl
  | erase key => rfl
  | merge other => exact (altered_writes store other.entries).symm
  | extract valueMap result => rfl
  | resolve =>
    unfold apply changes
    cases hresolved : store.resolved with
    | error e => rfl
    | ok next =>
      dsimp only
      rw [altered_writes, insertAll_of_keys_eq (keys_resolved hresolved)]

end Operation

/-- The store after operations in turn. -/
def operated (store : Store) (operations : List Operation) : Store :=
  operations.foldl Operation.apply store

/-- The changes that operations in turn make, each on the store that the ones before it leave. -/
def changesOf (store : Store) : List Operation → List Change
  | [] => []
  | operation :: rest => operation.changes store ++ changesOf (operation.apply store) rest

theorem operated_eq_altered (store : Store) (operations : List Operation) :
    store.operated operations = store.altered (store.changesOf operations) := by
  induction operations generalizing store with
  | nil => rfl
  | cons operation rest ih =>
    rw [changesOf, altered_append, ← operation.apply_eq_altered]
    exact ih _

/-- The changes that seed a store. -/
def seeding (seed : Store) (overrides : Option Store) : List Change :=
  writes seed.entries ++ overrides.elim [] fun other => writes other.entries

theorem seeded_eq_altered (seed : Store) (overrides : Option Store) :
    seeded seed overrides = empty.altered (seeding seed overrides) := by
  have hseed : empty.altered (writes seed.entries) = seed :=
    (altered_writes empty seed.entries).trans seed.ofPairs_entries
  rw [seeding, altered_append, hseed]
  cases overrides with
  | none => rfl
  | some other => exact (altered_writes seed other.entries).symm

/-- After any operations a store is a map, it came about by the changes of the map that the
operations make, and a key holds what was written to it last, unless it was removed after that. -/
theorem behaves_as_map (seed : Store) (overrides : Option Store) (operations : List Operation) :
    let start := seeded seed overrides
    let changes := start.changesOf operations
    empty.Follows (seeding seed overrides) start ∧
      start.Follows changes (start.operated operations) ∧
      (start.operated operations).IsMap ∧
      ∀ key value, (start.operated operations).get? key = some value ↔
        ∃ before after, seeding seed overrides ++ changes = before ++ (key, some value) :: after ∧
          ∀ change ∈ after, change.1 ≠ key := by
  intro start changes
  have hstart : start = empty.altered (seeding seed overrides) := seeded_eq_altered seed overrides
  have hfinal : start.operated operations = start.altered changes :=
    start.operated_eq_altered operations
  refine ⟨?_, ?_, (start.operated operations).isMap, ?_⟩
  · rw [hstart]
    exact empty.follows_altered _
  · rw [hfinal]
    exact start.follows_altered changes
  · intro key value
    rw [hfinal, hstart, ← altered_append]
    exact get?_altered_empty

/-- Parameters of a run against a shop, of which one refers to another. -/
def shopSeed : Store :=
  .ofPairs [("host", .text "shop"), ("token", .null), ("url", .text "<<host>>/api"),
    ("user", .text "eve")]

/-- Keeps what a login answers, of which one part is missing, forgets the user, fills in the
placeholders, and fails to do so once more. -/
def login : List Operation :=
  [.extract (.paths [("token", .text "session"), ("host", .text "moved/to")])
      (.object [("session", .text "s-1")]),
    .erase "user", .resolve, .merge (.ofPairs [("count", .text "increment(url)"), ("url", .null)]),
    .resolve]

theorem behaves_as_map_login :
    (seeded shopSeed none).Follows ((seeded shopSeed none).changesOf login)
      ((seeded shopSeed none).operated login) ∧
    ((seeded shopSeed none).operated login).IsMap ∧
    ∃ token, token.asText? = some "s-1" ∧
      ((seeded shopSeed none).operated login).get? "token" = some token ∧
      ∃ before after, seeding shopSeed none ++ (seeded shopSeed none).changesOf login =
          before ++ ("token", some token) :: after ∧
        ∀ change ∈ after, change.1 ≠ "token" := by
  have htext : (((seeded shopSeed none).operated login).get? "token").bind Value.asText? =
      some "s-1" := by decide +kernel
  obtain ⟨token, htoken, htext⟩ := Option.bind_eq_some_iff.mp htext
  obtain ⟨-, hfollows, hmap, hget⟩ := behaves_as_map shopSeed none login
  exact ⟨hfollows, hmap, token, htext, htoken, (hget "token" token).mp htoken⟩

example : ((seeded shopSeed none).operated login).keys = ["url", "token", "count"] := by
  decide +kernel

end Store

end FlowRunner
