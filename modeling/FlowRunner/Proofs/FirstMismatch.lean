import FlowRunner.Proofs.Locations
import FlowRunner.Response.Expectation

/-!
# The first mismatch of a response

A response is as expected when every leaf of the expectation is met by what stands at the same
location in the response. Otherwise the mismatch that is reported is at the first leaf that is not
met, in the order in which the expectation is written (`Mismatch.find?_spec`).

The two values need not have the same form: a step that the response does not have leads nowhere,
and from there on everything is missing (`Leaf.seenIn`).
-/

namespace FlowRunner

/-- Whether what stands in a response, if anything does, meets an expected scalar or null: null is
met by null and by nothing, a scalar by anything with the same text. -/
def Value.MetBy (expected : Value) (found : Option Value) : Prop :=
  match expected with
  | .null => ∀ v ∈ found, v = .null
  | scalar => ∃ v ∈ found, v.comparable = scalar.comparable

namespace Location

/-- The text of a location, after the text of the place it starts at. -/
def textAfter (start : String) : Location → String
  | [] => start
  | .key name :: rest => textAfter (if start.isEmpty then name else start ++ "/" ++ name) rest
  | .position index :: rest => textAfter (start ++ "[" ++ toString index ++ "]") rest

/-- How messages name a location. -/
def text (location : Location) : String :=
  if (textAfter "" location).isEmpty then "response" else textAfter "" location

end Location

/-- What stands at the location of a leaf in a value that may be missing. -/
def Leaf.seenIn (leaf : Leaf) (actual : Option Value) : Option Value :=
  actual.bind fun v => v.at? leaf.location

theorem Leaf.seenIn_under (leaf : Leaf) (turn : Turn) (actual : Option Value) :
    (leaf.under turn).seenIn actual = leaf.seenIn (actual.bind fun v => v.enter? turn) :=
  (Option.bind_assoc _ _ _).symm

namespace Mismatch

/-- The mismatch at a leaf of an expectation that stands at a path, unless the leaf is met. -/
def atLeaf? (actual : Option Value) (path : String) (leaf : Leaf) : Option Mismatch :=
  below? leaf.value (leaf.seenIn actual) (leaf.location.textAfter path)

/-! ## A single leaf -/

theorem below?_eq_none_iff {expected : Value} (h : expected.isLeaf = true)
    (found : Option Value) (path : String) :
    below? expected found path = none ↔ expected.MetBy found := by
  cases expected with
  | list items => cases h
  | object members => cases h
  | null => rcases found with _ | _ | _ <;> simp [below?, Value.MetBy]
  | bool b => cases found <;> simp [below?, Value.MetBy]
  | number n => cases found <;> simp [below?, Value.MetBy]
  | text s => cases found <;> simp [below?, Value.MetBy]

theorem eq_here_of_below? {expected : Value} (h : expected.isLeaf = true) {found : Option Value}
    {path : String} {m : Mismatch} (hm : below? expected found path = some m) :
    m = here path expected found := by
  cases expected with
  | list items => cases h
  | object members => cases h
  | null => rcases found with _ | _ | _ <;> simp_all [below?]
  | bool b => cases found <;> simp_all [below?]
  | number n => cases found <;> simp_all [below?]
  | text s => cases found <;> simp_all [below?]

/-! ## All leaves -/

theorem atLeaf?_comp_under_key (actual : Option Value) (path key : String) :
    atLeaf? actual path ∘ Leaf.under (.key key) =
      atLeaf? (actual.bind (Value.member? key)) (memberPath path key) := by
  funext leaf
  rw [Function.comp_apply, atLeaf?, Leaf.seenIn_under]
  rfl

theorem atLeaf?_comp_under_position (actual : Option Value) (path : String) (index : Nat) :
    atLeaf? actual path ∘ Leaf.under (.position index) =
      atLeaf? (actual.bind (Value.item? index)) (itemPath path index) := by
  funext leaf
  rw [Function.comp_apply, atLeaf?, Leaf.seenIn_under]
  rfl

-- The recursion is that of the search. The path and the response move inwards with it, which the
-- lemmas above turn into a move of the leaf outwards.
mutual

/-- The search finds what is wrong at the first leaf where something is. -/
theorem below?_eq_findSome? (expected : Value) (actual : Option Value) (path : String) :
    below? expected actual path = expected.leaves.findSome? (atLeaf? actual path) := by
  match expected with
  | .list items =>
    rw [below?, Value.leaves]
    exact inItems?_eq_findSome? items 0 actual path
  | .object members =>
    rw [below?, Value.leaves]
    exact inMembers?_eq_findSome? members actual path
  | .null => simp [Value.leaves, atLeaf?, Leaf.seenIn, Location.textAfter]
  | .bool b => simp [Value.leaves, atLeaf?, Leaf.seenIn, Location.textAfter]
  | .number n => simp [Value.leaves, atLeaf?, Leaf.seenIn, Location.textAfter]
  | .text s => simp [Value.leaves, atLeaf?, Leaf.seenIn, Location.textAfter]

theorem inItems?_eq_findSome? (items : List Value) (index : Nat) (actual : Option Value)
    (path : String) :
    inItems? items index actual path =
      (Value.itemLeaves index items).findSome? (atLeaf? actual path) := by
  match items with
  | [] => rfl
  | item :: rest =>
    rw [inItems?, Value.itemLeaves, List.findSome?_append, List.findSome?_map,
      atLeaf?_comp_under_position, below?_eq_findSome? item, inItems?_eq_findSome? rest]
    cases item.leaves.findSome? _ <;> rfl

theorem inMembers?_eq_findSome? (members : List (String × Value)) (actual : Option Value)
    (path : String) :
    inMembers? members actual path =
      (Value.memberLeaves members).findSome? (atLeaf? actual path) := by
  match members with
  | [] => rfl
  | (key, item) :: rest =>
    rw [inMembers?, Value.memberLeaves, List.findSome?_append, List.findSome?_map,
      atLeaf?_comp_under_key, below?_eq_findSome? item, inMembers?_eq_findSome? rest]
    cases item.leaves.findSome? _ <;> rfl

end

theorem atLeaf?_eq_none_iff (actual : Option Value) (path : String) (leaf : Leaf) :
    atLeaf? actual path leaf = none ↔ leaf.value.MetBy (leaf.seenIn actual) :=
  below?_eq_none_iff leaf.isLeaf _ _

theorem atLeaf?_eq_some_iff (actual : Option Value) (path : String) (leaf : Leaf) (m : Mismatch) :
    atLeaf? actual path leaf = some m ↔
      ¬ leaf.value.MetBy (leaf.seenIn actual) ∧
        m = here (leaf.location.textAfter path) leaf.value (leaf.seenIn actual) := by
  constructor
  · intro hm
    refine ⟨?_, eq_here_of_below? leaf.isLeaf hm⟩
    rw [← atLeaf?_eq_none_iff actual path, hm]
    exact Option.some_ne_none m
  · rintro ⟨hunmet, rfl⟩
    rw [← atLeaf?_eq_none_iff actual path] at hunmet
    obtain ⟨m, hm⟩ := Option.ne_none_iff_exists'.mp hunmet
    rw [hm, eq_here_of_below? leaf.isLeaf hm]

theorem here_textAfter (location : Location) (expected : Value) (found : Option Value) :
    here (location.textAfter "") expected found = {
      path := location.text
      expected := expected.comparable
      actual := (found.map Value.comparable).getD "<missing>" } := by
  cases found <;> rfl

/-- A response has no mismatch exactly when it meets every leaf of the expectation. Otherwise its
mismatch is that of the first leaf that is not met: with the text of the location, the text that is
expected and the text that is there. -/
theorem find?_spec (expected actual : Value) :
    (find? expected actual = none ↔
      ∀ leaf ∈ expected.leaves, leaf.value.MetBy (actual.at? leaf.location)) ∧
    ∀ m, find? expected actual = some m ↔
      ∃ before leaf after, expected.leaves = before ++ leaf :: after ∧
        (∀ earlier ∈ before, earlier.value.MetBy (actual.at? earlier.location)) ∧
        ¬ leaf.value.MetBy (actual.at? leaf.location) ∧
        m = {
          path := leaf.location.text
          expected := leaf.value.comparable
          actual := ((actual.at? leaf.location).map Value.comparable).getD "<missing>" } := by
  have hfind := below?_eq_findSome? expected (some actual) ""
  constructor
  · rw [find?, hfind, List.findSome?_eq_none_iff]
    exact forall₂_congr fun leaf _ => atLeaf?_eq_none_iff _ _ leaf
  · intro m
    rw [find?, hfind, List.findSome?_eq_some_iff]
    refine exists₃_congr fun before leaf after => and_congr_right fun _ => ?_
    rw [atLeaf?_eq_some_iff, here_textAfter, and_comm]
    refine and_congr_left fun _ => ?_
    exact forall₂_congr fun earlier _ => atLeaf?_eq_none_iff _ _ earlier

example :
    find? (.object [("items", .list [.null, .object [("id", .text "7"), ("tag", .text "a")]])])
      (.object [("items", .list [])]) = some ⟨"items[1]/id", "7", "<missing>"⟩ := by
  decide +kernel

end Mismatch

end FlowRunner
