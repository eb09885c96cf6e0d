import FlowRunner.Proofs.DistinctKeys

/-!
# Locations in values

A location says how to get from a value to something inside it: an object is entered by a key, a
list by a position. The leaves of a value are its scalars and nulls with their locations, in the
order in which the value is written; an empty list or object has none.

* `Value.mem_leaves_iff`: where no object has a key twice, the leaves are the scalars and nulls that
  can be reached, each at its location.
-/

namespace FlowRunner

/-- One step into a value. -/
inductive Turn
  | key (name : String)
  | position (index : Nat)
  deriving DecidableEq, Repr

/-- The steps from a value to something inside it, the outermost first. -/
abbrev Location := List Turn

/-- Whether a value is a scalar or null. -/
def Value.isLeaf : Value → Bool
  | .list _ => false
  | .object _ => false
  | _ => true

/-- A scalar or a null at a location. -/
@[ext]
structure Leaf where
  location : Location
  value : Value
  isLeaf : value.isLeaf = true

/-- The leaf as it is seen from one step further out. -/
def Leaf.under (turn : Turn) (leaf : Leaf) : Leaf :=
  { leaf with location := turn :: leaf.location }

namespace Value

/-- What one step leads to. -/
def enter? (v : Value) : Turn → Option Value
  | .key name => v.member? name
  | .position index => v.item? index

/-- What stands at a location. -/
def at? (v : Value) : Location → Option Value
  | [] => some v
  | turn :: rest => (v.enter? turn).bind fun inner => inner.at? rest

mutual

/-- The leaves of a value, in the order in which it is written. -/
def leaves : Value → List Leaf
  | .list items => itemLeaves 0 items
  | .object members => memberLeaves members
  | .null => [⟨[], .null, rfl⟩]
  | .bool b => [⟨[], .bool b, rfl⟩]
  | .number n => [⟨[], .number n, rfl⟩]
  | .text s => [⟨[], .text s, rfl⟩]

/-- The leaves of items, of which the first has a position. -/
def itemLeaves (index : Nat) : List Value → List Leaf
  | [] => []
  | v :: rest => (leaves v).map (.under (.position index)) ++ itemLeaves (index + 1) rest

/-- The leaves of members. -/
def memberLeaves : List (String × Value) → List Leaf
  | [] => []
  | (key, v) :: rest => (leaves v).map (.under (.key key)) ++ memberLeaves rest

end

@[simp] theorem at?_nil (v : Value) : v.at? [] = some v := rfl

@[simp] theorem at?_cons (v : Value) (turn : Turn) (rest : Location) :
    v.at? (turn :: rest) = (v.enter? turn).bind fun inner => inner.at? rest := rfl

theorem enter?_of_isLeaf {v : Value} (h : v.isLeaf = true) (turn : Turn) :
    v.enter? turn = none := by
  cases v with
  | list items => cases h
  | object members => cases h
  | _ => cases turn <;> rfl

/-! ## What the leaves are -/

theorem mem_itemLeaves_iff {index : Nat} {items : List Value} {leaf : Leaf} :
    leaf ∈ itemLeaves index items ↔
      ∃ (i : Nat) (v : Value) (inner : Leaf), items[i]? = some v ∧ inner ∈ v.leaves ∧
        leaf = inner.under (.position (index + i)) := by
  induction items generalizing index with
  | nil => simp [itemLeaves]
  | cons item rest ih =>
    rw [itemLeaves, List.mem_append, List.mem_map, ih]
    constructor
    · rintro (⟨inner, hinner, rfl⟩ | ⟨i, v, inner, hitem, hinner, rfl⟩)
      · exact ⟨0, item, inner, rfl, hinner, rfl⟩
      · refine ⟨i + 1, v, inner, hitem, hinner, ?_⟩
        rw [Nat.add_right_comm, Nat.add_assoc]
    · rintro ⟨_ | i, v, inner, hitem, hinner, rfl⟩
      · cases hitem
        exact .inl ⟨inner, hinner, rfl⟩
      · refine .inr ⟨i, v, inner, hitem, hinner, ?_⟩
        rw [Nat.add_right_comm, Nat.add_assoc]

theorem mem_memberLeaves_iff {members : List (String × Value)} {leaf : Leaf} :
    leaf ∈ memberLeaves members ↔
      ∃ key v inner, (key, v) ∈ members ∧ inner ∈ v.leaves ∧ leaf = inner.under (.key key) := by
  induction members with
  | nil => simp [memberLeaves]
  | cons member rest ih =>
    obtain ⟨k, w⟩ := member
    rw [memberLeaves, List.mem_append, List.mem_map, ih]
    constructor
    · rintro (⟨inner, hinner, rfl⟩ | ⟨key, v, inner, hmember, hinner, rfl⟩)
      · exact ⟨k, w, inner, List.mem_cons_self, hinner, rfl⟩
      · exact ⟨key, v, inner, List.mem_cons_of_mem _ hmember, hinner, rfl⟩
    · rintro ⟨key, v, inner, hmember, hinner, rfl⟩
      rcases List.mem_cons.mp hmember with heq | hrest
      · cases heq
        exact .inl ⟨inner, hinner, rfl⟩
      · exact .inr ⟨key, v, inner, hrest, hinner, rfl⟩

/-- No object inside a value has a key twice. -/
def KeysDistinct (v : Value) : Prop :=
  ∀ location members, v.at? location = some (.object members) → Members.Distinct members

theorem KeysDistinct.members {members : List (String × Value)}
    (h : (object members).KeysDistinct) : Members.Distinct members :=
  h [] members rfl

theorem KeysDistinct.enter {v inner : Value} {turn : Turn} (h : v.KeysDistinct)
    (henter : v.enter? turn = some inner) : inner.KeysDistinct := by
  intro location members hat
  apply h (turn :: location) members
  rw [at?_cons, henter, Option.bind_some, hat]

theorem KeysDistinct.item {items : List Value} (h : (list items).KeysDistinct) {item : Value}
    (hitem : item ∈ items) : item.KeysDistinct := by
  obtain ⟨i, hi⟩ := List.mem_iff_getElem?.mp hitem
  have henter : (list items).enter? (.position i) = some item := hi
  exact h.enter henter

theorem KeysDistinct.value {members : List (String × Value)} (h : (object members).KeysDistinct)
    {member : String × Value} (hmember : member ∈ members) : member.2.KeysDistinct := by
  have henter : (object members).enter? (.key member.1) = some member.2 :=
    (Members.get?_eq_some_iff h.members).mpr hmember
  exact h.enter henter

theorem KeysDistinct.at {v inner : Value} {location : Location} (h : v.KeysDistinct)
    (hat : v.at? location = some inner) : inner.KeysDistinct := by
  induction location generalizing v with
  | nil => exact Option.some.inj hat ▸ h
  | cons turn rest ih =>
    obtain ⟨next, henter, hrest⟩ := Option.bind_eq_some_iff.mp hat
    exact ih (h.enter henter) hrest

theorem keysDistinct_of_isLeaf {v : Value} (h : v.isLeaf = true) : v.KeysDistinct := by
  intro location members hat
  cases v with
  | list items => cases h
  | object members => cases h
  | _ =>
    rcases location with _ | ⟨_ | _, rest⟩ <;> cases hat

theorem keysDistinct_list {items : List Value} (h : ∀ v ∈ items, v.KeysDistinct) :
    (list items).KeysDistinct := by
  rintro (_ | ⟨turn, rest⟩) members hat
  · cases hat
  · obtain ⟨inner, henter, hrest⟩ := Option.bind_eq_some_iff.mp hat
    cases turn with
    | key name => cases henter
    | position index => exact h inner (List.mem_of_getElem? henter) rest members hrest

theorem keysDistinct_object {members : List (String × Value)} (hdistinct : Members.Distinct members)
    (h : ∀ member ∈ members, member.2.KeysDistinct) : (object members).KeysDistinct := by
  rintro (_ | ⟨turn, rest⟩) others hat
  · cases hat
    exact hdistinct
  · obtain ⟨inner, henter, hrest⟩ := Option.bind_eq_some_iff.mp hat
    cases turn with
    | key name => exact h (name, inner) (Members.mem_of_get?_eq_some henter) rest others hrest
    | position index => cases henter

theorem keysDistinct_of_leaves {members : List (String × Value)}
    (hdistinct : Members.Distinct members) (h : ∀ member ∈ members, member.2.isLeaf = true) :
    (object members).KeysDistinct :=
  keysDistinct_object hdistinct fun member hmember => keysDistinct_of_isLeaf (h member hmember)

/-- A leaf one step further in is a leaf of what this step leads to. -/
theorem under_mem_leaves_iff {v : Value} (h : v.KeysDistinct) {turn : Turn} {leaf : Leaf} :
    leaf.under turn ∈ v.leaves ↔ ∃ inner, v.enter? turn = some inner ∧ leaf ∈ inner.leaves := by
  cases v with
  | list items =>
    rw [leaves, mem_itemLeaves_iff]
    constructor
    · rintro ⟨i, inner, other, hitem, hother, heq⟩
      simp only [Leaf.under, Leaf.mk.injEq, List.cons.injEq, Nat.zero_add] at heq
      obtain ⟨⟨rfl, hlocation⟩, hvalue⟩ := heq
      exact ⟨inner, hitem, Leaf.ext hlocation hvalue ▸ hother⟩
    · rintro ⟨inner, henter, hleaf⟩
      cases turn with
      | key name => cases henter
      | position i =>
        refine ⟨i, inner, leaf, henter, hleaf, ?_⟩
        rw [Nat.zero_add]
  | object members =>
    rw [leaves, mem_memberLeaves_iff]
    constructor
    · rintro ⟨key, inner, other, hmember, hother, heq⟩
      simp only [Leaf.under, Leaf.mk.injEq, List.cons.injEq] at heq
      obtain ⟨⟨rfl, hlocation⟩, hvalue⟩ := heq
      have hget := (Members.get?_eq_some_iff h.members).mpr hmember
      exact ⟨inner, hget, Leaf.ext hlocation hvalue ▸ hother⟩
    · rintro ⟨inner, henter, hleaf⟩
      cases turn with
      | key name =>
        exact ⟨name, inner, leaf, Members.mem_of_get?_eq_some henter, hleaf, rfl⟩
      | position i => cases henter
  | _ => cases turn <;> simp [leaves, Leaf.under, Leaf.ext_iff, enter?, member?, item?]

/-- The leaves of a value are the scalars and nulls that can be reached in it. -/
theorem mem_leaves_iff {v : Value} (h : v.KeysDistinct) {leaf : Leaf} :
    leaf ∈ v.leaves ↔ v.at? leaf.location = some leaf.value := by
  obtain ⟨location, inner, hinner⟩ := leaf
  induction location generalizing v with
  | nil =>
    cases v with
    | list items =>
      rw [leaves, mem_itemLeaves_iff]
      constructor
      · rintro ⟨i, next, leaf, -, -, heq⟩
        cases heq
      · intro hat
        cases hat
        cases hinner
    | object members =>
      rw [leaves, mem_memberLeaves_iff]
      constructor
      · rintro ⟨key, next, leaf, -, -, heq⟩
        cases heq
      · intro hat
        cases hat
        cases hinner
    | _ => simp [leaves, Leaf.ext_iff, eq_comm]
  | cons turn rest ih =>
    let tail : Leaf := ⟨rest, inner, hinner⟩
    have hunder : tail.under turn ∈ v.leaves ↔
        ∃ next, v.enter? turn = some next ∧ tail ∈ next.leaves := under_mem_leaves_iff h
    rw [at?_cons, Option.bind_eq_some_iff]
    refine hunder.trans ?_
    constructor
    · rintro ⟨next, henter, hleaf⟩
      exact ⟨next, henter, (ih (h.enter henter)).mp hleaf⟩
    · rintro ⟨next, henter, hat⟩
      exact ⟨next, henter, (ih (h.enter henter)).mpr hat⟩

/-- The leaves of a list or object are further in. -/
theorem location_ne_nil {v : Value} (hkeys : v.KeysDistinct) (h : v.isLeaf = false) {leaf : Leaf}
    (hleaf : leaf ∈ v.leaves) : leaf.location ≠ [] := by
  intro hnil
  have hat := (mem_leaves_iff hkeys).mp hleaf
  rw [hnil] at hat
  cases hat
  rw [leaf.isLeaf] at h
  cases h

end Value

end FlowRunner
