import FlowRunner.Proofs.HandOver
import FlowRunner.Proofs.SpelledPaths

/-!
# Paths of mismatches

The path of a mismatch is written for people, but it is a path expression too. Where the keys of the
expectation can be spelled, it reads the expected scalar in the expectation, and in the response what
stands at the same place, if anything does (`Mismatch.lookup?_path`).

An entry of a value map that is this path keeps what it reads in the response, unless the response
is a list. Of a list the first item is meant, and the path starts too far out
(`Mismatch.path_of_list_missed`).
-/

namespace FlowRunner

namespace Value

/-- Every key and position on the way to a scalar or null can be spelled. Keys that lead to none do
not matter, because no mismatch is reported there. -/
def Plain (v : Value) : Prop :=
  ∀ leaf ∈ v.leaves, ∀ turn ∈ leaf.location, turn.Plain

instance (v : Value) : Decidable v.Plain :=
  inferInstanceAs (Decidable (∀ leaf ∈ v.leaves, ∀ turn ∈ leaf.location, turn.Plain))

end Value

namespace Mismatch

variable {expected actual : Value} {m : Mismatch}

/-- A mismatch is that of the first leaf that is not met. -/
theorem exists_leaf_of_find? (hm : find? expected actual = some m) :
    ∃ before leaf after, expected.leaves = before ++ leaf :: after ∧
      (∀ earlier ∈ before, earlier.value.MetBy (actual.at? earlier.location)) ∧
      ¬ leaf.value.MetBy (actual.at? leaf.location) ∧
      m = here (leaf.location.textAfter "") leaf.value (actual.at? leaf.location) := by
  rw [find?, below?_eq_findSome?, List.findSome?_eq_some_iff] at hm
  obtain ⟨before, leaf, after, hleaves, hleaf, hbefore⟩ := hm
  obtain ⟨hunmet, heq⟩ := (atLeaf?_eq_some_iff _ _ leaf m).mp hleaf
  exact ⟨before, leaf, after, hleaves,
    fun earlier hearlier => (atLeaf?_eq_none_iff _ _ earlier).mp (hbefore earlier hearlier),
    hunmet, heq⟩

/-- The path of a mismatch reads the expected scalar and what stands in its place. A value map keeps
the latter for an entry that is this path, in a response that is no list. -/
theorem lookup?_path (hcontainer : expected.isLeaf = false) (hkeys : expected.KeysDistinct)
    (hplain : expected.Plain) (hm : find? expected actual = some m) :
    ∃ before leaf after, expected.leaves = before ++ leaf :: after ∧
      (∀ earlier ∈ before, earlier.value.MetBy (actual.at? earlier.location)) ∧
      ¬ leaf.value.MetBy (actual.at? leaf.location) ∧
      expected.lookup? m.path.toList = some leaf.value ∧
      m.expected = leaf.value.comparable ∧
      actual.lookup? m.path.toList = actual.at? leaf.location ∧
      m.actual = ((actual.at? leaf.location).map Value.comparable).getD "<missing>" ∧
      ((∀ items, actual ≠ .list items) → ∀ (store : Store) entries key,
        Members.Distinct entries → (key, Value.text m.path) ∈ entries →
          (store.extract (.paths entries) actual).get? key = actual.at? leaf.location) := by
  obtain ⟨before, leaf, after, hleaves, hbefore, hunmet, rfl⟩ := exists_leaf_of_find? hm
  have hleaf : leaf ∈ expected.leaves := by
    rw [hleaves]
    exact List.mem_append_right _ List.mem_cons_self
  have hread := Value.lookup?_text (Value.location_ne_nil hkeys hcontainer hleaf) (hplain leaf hleaf)
  rw [here_textAfter]
  refine ⟨before, leaf, after, hleaves, hbefore, hunmet, ?_, rfl, hread actual, rfl, ?_⟩
  · exact (hread expected).trans ((Value.mem_leaves_iff hkeys).mp hleaf)
  · intro hresponse store entries key hentries hentry
    have hsource : ValueMap.sourceOf actual = actual := by
      cases actual with
      | list items => exact absurd rfl (hresponse items)
      | _ => rfl
    rw [Placeholder.get?_extract_paths hentries hentry, hsource]
    exact hread actual

def order : Value :=
  .object [("state", .text "open"), ("rows", .list [.null, .list [.object [("id", .text "7")]]])]

def swapped : Value :=
  .object [("rows", .list [.null, .list [.object [("sum", .null), ("id", .text "8")]]]),
    ("state", .text "open")]

theorem lookup?_path_order :
    order.isLeaf = false ∧ order.KeysDistinct ∧ order.Plain ∧
      find? order swapped = some ⟨"rows[1][0]/id", "7", "8"⟩ ∧
      ∃ leaf ∈ order.leaves,
        order.lookup? "rows[1][0]/id".toList = some leaf.value ∧ leaf.value.comparable = "7" ∧
        swapped.lookup? "rows[1][0]/id".toList = swapped.at? leaf.location ∧
        (Store.empty.extract (.paths [("id", .text "rows[1][0]/id")]) swapped).get? "id" =
          swapped.at? leaf.location := by
  have hrow : (Value.object [("id", .text "7")]).KeysDistinct :=
    Value.keysDistinct_object (by decide)
      (List.forall_mem_singleton.mpr (Value.keysDistinct_of_isLeaf rfl))
  have hrows : (Value.list [.null, .list [.object [("id", .text "7")]]]).KeysDistinct :=
    Value.keysDistinct_list (List.forall_mem_cons.mpr ⟨Value.keysDistinct_of_isLeaf rfl,
      List.forall_mem_singleton.mpr
        (Value.keysDistinct_list (List.forall_mem_singleton.mpr hrow))⟩)
  have hkeys : order.KeysDistinct :=
    Value.keysDistinct_object (by decide) (List.forall_mem_cons.mpr
      ⟨Value.keysDistinct_of_isLeaf rfl, List.forall_mem_singleton.mpr hrows⟩)
  have hplain : order.Plain := by decide +kernel
  have hm : find? order swapped = some ⟨"rows[1][0]/id", "7", "8"⟩ := by decide +kernel
  obtain ⟨before, leaf, after, hleaves, -, -, hwanted, hexpected, hthere, -, hkept⟩ :=
    lookup?_path rfl hkeys hplain hm
  have hleaf : leaf ∈ order.leaves := by
    rw [hleaves]
    exact List.mem_append_right _ List.mem_cons_self
  have hread := hkept (fun items heq => by cases heq) Store.empty [("id", .text "rows[1][0]/id")]
    "id" (by decide) (List.mem_singleton.mpr rfl)
  exact ⟨rfl, hkeys, hplain, hm, leaf, hleaf, hwanted, hexpected.symm, hthere, hread⟩

def rows : Value :=
  .list [.object [("id", .text "1")]]

def otherRows : Value :=
  .list [.object [("id", .text "2")]]

/-- The path of a mismatch in a list reads the list, but a value map has only the first item to read
in, and finds nothing there. -/
theorem path_of_list_missed :
    rows.Plain ∧ rows.KeysDistinct ∧ find? rows otherRows = some ⟨"[0]/id", "1", "2"⟩ ∧
      (otherRows.lookup? "[0]/id".toList).bind Value.asText? = some "2" ∧
      (Store.empty.extract (.paths [("id", .text "[0]/id")]) otherRows).contains "id" = false := by
  have hkeys : rows.KeysDistinct :=
    Value.keysDistinct_list (List.forall_mem_singleton.mpr (Value.keysDistinct_object (by decide)
      (List.forall_mem_singleton.mpr (Value.keysDistinct_of_isLeaf rfl))))
  exact ⟨by decide +kernel, hkeys, by decide +kernel, by decide +kernel, by decide +kernel⟩

end Mismatch

end FlowRunner
