import FlowRunner.Proofs.FirstMismatch
import Mathlib.Logic.Relation

/-!
# Parts of a response that are free

An expectation looks at the keys that it names and at the positions that it has. A response may hold
more: other members where an object is expected, and further items where a list is expected and all
its positions are there (`Mismatch.Insertion`). However many of these are put in, and however deep,
the outcome stays the same, and so does the text of a mismatch. A value meets itself as an
expectation (`Mismatch.find?_eq_of_insertions`).

What counts is the leaves of the expectation. An insertion changes a response where a list or an
object is expected, so a leaf lies further in or elsewhere, and the way to it goes on by a key that
is named or a position that was there before (`Value.at?_replaceAt_of_leaf`).
-/

namespace FlowRunner

namespace Value

/-- The value with another one in the place of what stands at a location, if anything does. -/
def replaceAt : Value → Location → Value → Value
  | _, [], new => new
  | .object members, .key name :: rest, new =>
    match Members.get? name members with
    | some inner => .object (Members.put name (inner.replaceAt rest new) members)
    | none => .object members
  | .list items, .position index :: rest, new =>
    .list (items.modify index fun inner => inner.replaceAt rest new)
  | v, _ :: _, _ => v

theorem metBy_self {v : Value} (h : v.isLeaf = true) : v.MetBy (some v) := by
  cases v with
  | list items => cases h
  | object members => cases h
  | null =>
    intro w hw
    cases hw
    rfl
  | _ => exact ⟨_, rfl, rfl⟩

/-- A replacement further in is seen behind its own first step and behind no other. -/
theorem enter?_replaceAt (v : Value) (turn other : Turn) (rest : Location) (new : Value) :
    (v.replaceAt (turn :: rest) new).enter? other =
      if other = turn then (v.enter? turn).map fun inner => inner.replaceAt rest new
      else v.enter? other := by
  cases v with
  | list items =>
    cases turn with
    | key name => cases other <;> simp [replaceAt, enter?, member?, item?]
    | position index =>
      cases other with
      | key name => simp [replaceAt, enter?, member?]
      | position i =>
        by_cases hi : i = index
        · simp [replaceAt, enter?, item?, hi]
        · have hne : index ≠ i := Ne.symm hi
          simp [replaceAt, enter?, item?, hi, hne]
  | object members =>
    cases turn with
    | position index => cases other <;> simp [replaceAt, enter?, member?, item?]
    | key name =>
      cases other with
      | position i =>
        cases hget : Members.get? name members <;> simp [replaceAt, enter?, item?, hget]
      | key k =>
        cases hget : Members.get? name members with
        | none => by_cases hk : k = name <;> simp [replaceAt, enter?, member?, hget, hk]
        | some inner =>
          by_cases hk : k = name <;> simp [replaceAt, enter?, member?, hget, Members.get?_put, hk]
  | _ => cases turn <;> cases other <;> simp [replaceAt, enter?, member?, item?]

/-- Where something is expected that can be entered, a response may be changed as long as every step
that the expectation has leads where it led before. Then nothing changes at a leaf. -/
theorem at?_replaceAt_of_leaf {expected actual wanted old new : Value} {location : Location}
    (hwanted : expected.at? location = some wanted) (hcontainer : wanted.isLeaf = false)
    (hold : actual.at? location = some old)
    (hsame : ∀ turn inner, wanted.enter? turn = some inner → new.enter? turn = old.enter? turn)
    {other : Location} {v : Value} (hleaf : v.isLeaf = true)
    (hother : expected.at? other = some v) :
    (actual.replaceAt location new).at? other = actual.at? other := by
  induction location generalizing expected actual other with
  | nil =>
    cases hwanted
    cases hold
    cases other with
    | nil =>
      cases hother
      cases hleaf.symm.trans hcontainer
    | cons turn more =>
      obtain ⟨inner, henter, -⟩ := Option.bind_eq_some_iff.mp hother
      rw [replaceAt, at?_cons, at?_cons, hsame turn inner henter]
  | cons turn rest ih =>
    obtain ⟨next, hnext, hrest⟩ := Option.bind_eq_some_iff.mp hwanted
    obtain ⟨seen, hseen, hthere⟩ := Option.bind_eq_some_iff.mp hold
    cases other with
    | nil =>
      -- The way to the location leads through the expectation, which is no leaf then.
      cases hother
      rw [enter?_of_isLeaf hleaf] at hnext
      cases hnext
    | cons step more =>
      rw [at?_cons, at?_cons, enter?_replaceAt]
      by_cases hstep : step = turn
      · subst hstep
        rw [at?_cons, hnext, Option.bind_some] at hother
        rw [if_pos rfl, hseen, Option.map_some, Option.bind_some, Option.bind_some]
        exact ih hrest hthere hother
      · rw [if_neg hstep]

end Value

namespace Mismatch

/-- A response with more in it that is not looked at: members under keys that are not named, at any
place in an object where an object is expected, or items behind those of a list that is no shorter
than the list that is expected. -/
inductive Insertion (expected actual : Value) : Value → Prop
  | members (location : Location) {named : List (String × Value)}
    (before more after : List (String × Value))
    (hexpected : expected.at? location = some (.object named))
    (hactual : actual.at? location = some (.object (before ++ after)))
    (hmore : ∀ member ∈ more, member.1 ∉ Members.keys named) :
    Insertion expected actual (actual.replaceAt location (.object (before ++ (more ++ after))))
  | items (location : Location) {wanted : List Value} (items more : List Value)
    (hexpected : expected.at? location = some (.list wanted))
    (hactual : actual.at? location = some (.list items))
    (hlength : wanted.length ≤ items.length) :
    Insertion expected actual (actual.replaceAt location (.list (items ++ more)))

theorem get?_insert_of_unnamed {key : String} {more : List (String × Value)}
    (h : key ∉ Members.keys more) (before after : List (String × Value)) :
    Members.get? key (before ++ (more ++ after)) = Members.get? key (before ++ after) := by
  rw [Members.get?_append, Members.get?_append, Members.get?_append,
    Members.get?_eq_none_iff.mpr h]
  rfl

variable {expected actual grown : Value}

/-- After an insertion, the same stands at every leaf of the expectation. -/
theorem Insertion.at?_eq (h : Insertion expected actual grown) {leaf : Leaf}
    (hleaf : expected.at? leaf.location = some leaf.value) :
    grown.at? leaf.location = actual.at? leaf.location := by
  cases h with
  | @members location named before more after hexpected hactual hmore =>
    refine Value.at?_replaceAt_of_leaf hexpected rfl hactual ?_ leaf.isLeaf hleaf
    intro turn inner henter
    cases turn with
    | position index => rfl
    | key name =>
      have hnamed : name ∈ Members.keys named :=
        List.mem_map_of_mem (Members.mem_of_get?_eq_some henter)
      have hunnamed : name ∉ Members.keys more := by
        intro hmem
        obtain ⟨member, hmember, rfl⟩ := List.mem_map.mp hmem
        exact hmore member hmember hnamed
      exact get?_insert_of_unnamed hunnamed before after
  | @items location wanted items more hexpected hactual hlength =>
    refine Value.at?_replaceAt_of_leaf hexpected rfl hactual ?_ leaf.isLeaf hleaf
    intro turn inner henter
    cases turn with
    | key name => rfl
    | position index =>
      have hindex : index < wanted.length := (List.getElem?_eq_some_iff.mp henter).1
      exact List.getElem?_append_left (by omega)

/-- The outcome depends on what stands at the leaves of the expectation. -/
theorem find?_congr
    (h : ∀ leaf ∈ expected.leaves, grown.at? leaf.location = actual.at? leaf.location) :
    find? expected grown = find? expected actual := by
  have hleaves : ∀ leaf ∈ expected.leaves,
      atLeaf? (some grown) "" leaf = atLeaf? (some actual) "" leaf := by
    intro leaf hleaf
    have hseen : leaf.seenIn (some grown) = leaf.seenIn (some actual) := h leaf hleaf
    rw [atLeaf?, hseen, atLeaf?]
  rw [find?, find?, below?_eq_findSome?, below?_eq_findSome?, ← List.head?_filterMap,
    ← List.head?_filterMap, List.filterMap_congr hleaves]

theorem Insertion.find?_eq (hkeys : expected.KeysDistinct) (h : Insertion expected actual grown) :
    find? expected grown = find? expected actual := by
  apply find?_congr
  intro leaf hleaf
  exact h.at?_eq ((Value.mem_leaves_iff hkeys).mp hleaf)

theorem find?_self (hkeys : expected.KeysDistinct) : find? expected expected = none := by
  rw [find?, below?_eq_findSome?, List.findSome?_eq_none_iff]
  intro leaf hleaf
  rw [atLeaf?_eq_none_iff]
  have hat : leaf.seenIn (some expected) = some leaf.value := (Value.mem_leaves_iff hkeys).mp hleaf
  rw [hat]
  exact Value.metBy_self leaf.isLeaf

/-- Members and items that are not looked at, put into a response one after the other, leave its
first mismatch as it is, or leave it without one. No value differs from itself. -/
theorem find?_eq_of_insertions {expected : Value} (hkeys : expected.KeysDistinct) :
    (∀ actual grown, Relation.ReflTransGen (Insertion expected) actual grown →
        find? expected grown = find? expected actual) ∧
      find? expected expected = none := by
  refine ⟨fun actual grown h => ?_, find?_self hkeys⟩
  induction h with
  | refl => rfl
  | tail _ hlast ih => rw [hlast.find?_eq hkeys, ih]

def wantedBoard : Value :=
  .object [("state", .text "open"), ("rows", .list [.null, .object [("id", .text "7")]]),
    ("note", .null)]

def seenBoard : Value :=
  .object [("rows", .list [.null, .object [("id", .text "8")]]), ("state", .text "open")]

/-- The board with a member under a key that is expected elsewhere, another row and another
member. -/
def fullBoard : Value :=
  .object [("rows", .list [.null, .object [("note", .bool true), ("id", .text "8")], .text "7"]),
    ("more", .null), ("state", .text "open")]

theorem find?_eq_of_insertions_board :
    wantedBoard.KeysDistinct ∧
      Relation.ReflTransGen (Insertion wantedBoard) seenBoard fullBoard ∧
      find? wantedBoard fullBoard = some ⟨"rows[1]/id", "7", "8"⟩ ∧
      find? wantedBoard wantedBoard = none := by
  have hrow : (Value.object [("id", .text "7")]).KeysDistinct :=
    Value.keysDistinct_object (by decide)
      (List.forall_mem_singleton.mpr (Value.keysDistinct_of_isLeaf rfl))
  have hrows : (Value.list [.null, .object [("id", .text "7")]]).KeysDistinct :=
    Value.keysDistinct_list (List.forall_mem_cons.mpr
      ⟨Value.keysDistinct_of_isLeaf rfl, List.forall_mem_singleton.mpr hrow⟩)
  have hkeys : wantedBoard.KeysDistinct :=
    Value.keysDistinct_object (by decide) (List.forall_mem_cons.mpr
      ⟨Value.keysDistinct_of_isLeaf rfl, List.forall_mem_cons.mpr ⟨hrows,
        List.forall_mem_singleton.mpr (Value.keysDistinct_of_isLeaf rfl)⟩⟩)
  have hwanted : wantedBoard.at? [.key "rows"] =
      some (.list [.null, .object [("id", .text "7")]]) := rfl
  let row : Value := .object [("note", .bool true), ("id", .text "8")]
  have hmember : Insertion wantedBoard seenBoard
      (.object [("rows", .list [.null, row]), ("state", .text "open")]) :=
    .members [.key "rows", .position 1] [] [("note", .bool true)] [("id", .text "8")] rfl rfl
      (by decide)
  have hitem : Insertion wantedBoard
      (.object [("rows", .list [.null, row]), ("state", .text "open")])
      (.object [("rows", .list [.null, row, .text "7"]), ("state", .text "open")]) :=
    .items [.key "rows"] [.null, row] [.text "7"] hwanted rfl (Nat.le_refl 2)
  have hlast : Insertion wantedBoard
      (.object [("rows", .list [.null, row, .text "7"]), ("state", .text "open")]) fullBoard :=
    .members [] [("rows", .list [.null, row, .text "7"])] [("more", .null)]
      [("state", .text "open")] rfl rfl (by decide)
  have hgrown : Relation.ReflTransGen (Insertion wantedBoard) seenBoard fullBoard :=
    ((Relation.ReflTransGen.single hmember).tail hitem).tail hlast
  have hseen : find? wantedBoard seenBoard = some ⟨"rows[1]/id", "7", "8"⟩ := by decide +kernel
  obtain ⟨hsame, hself⟩ := find?_eq_of_insertions hkeys
  exact ⟨hkeys, hgrown, (hsame _ _ hgrown).trans hseen, hself⟩

end Mismatch

end FlowRunner
