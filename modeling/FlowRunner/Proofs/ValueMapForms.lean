import FlowRunner.Proofs.SpelledPaths
import FlowRunner.Proofs.WrittenSteps
import FlowRunner.Response.Extraction

/-!
# The two forms of a value map

A value map is written as a list of names or as an object with a path for each key. A name alone is
a path as well, and where it can be spelled it leads to the member of that name and nowhere else, be
the source an object, a list or a scalar (`Value.lookup?_plainName`). So the list is short for the
object in which every name stands for itself: the two keep the same values under the same keys, in
the same order, and remove the same keys (`ValueMap.forms_agree`).

Any other name has a meaning of its own in a path: one that reads as a position finds an item of a
list, where the list form finds nothing.
-/

namespace FlowRunner

/-- A name that can be spelled is a path to the member of that name. -/
theorem Value.lookup?_plainName {name : String} (h : Segment.PlainName name.toList) (v : Value) :
    v.lookup? name.toList = v.member? name := by
  have hturn : ∀ turn ∈ [Turn.key name], turn.Plain := List.forall_mem_singleton.mpr h
  have htext : Location.text [.key name] = name := by
    have hne : name ≠ "" := by
      rintro rfl
      exact h.nonempty rfl
    simp [Location.text, Location.textAfter, hne]
  have hread := lookup?_text (List.cons_ne_nil _ _) hturn v
  rw [htext] at hread
  rw [hread, at?_cons, enter?]
  cases v.member? name <;> rfl

namespace ValueMap

/-- The entries in which every name stands for itself. -/
def selfEntries (names : List String) : List (String × Value) :=
  names.map fun name => (name, .text name)

theorem keys_selfEntries (names : List String) : Members.keys (selfEntries names) = names := by
  rw [selfEntries, Members.keys, List.map_map]
  exact List.map_id names

theorem ofPairs_selfEntries {names : List String} (h : names.Nodup) :
    Members.ofPairs (selfEntries names) = selfEntries names := by
  have hdistinct : Members.Distinct ([] ++ selfEntries names) := by
    rw [Members.Distinct, List.nil_append, keys_selfEntries]
    exact h
  exact Members.merge_of_distinct hdistinct

theorem readings_selfEntries {names : List String}
    (h : ∀ name ∈ names, Segment.PlainName name.toList) (source : Value) :
    (paths (selfEntries names)).readings source = (fields names).readings source := by
  rw [readings, readings, selfEntries, List.map_map]
  apply List.map_congr_left
  intro name hname
  have hread : entryValue? source (.text name) = source.member? name :=
    source.lookup?_plainName (h name hname)
  exact congrArg (Prod.mk name) hread

/-- A list of names and the object in which each of them stands for itself are value maps that keep
the same of every result, and find equally many values. -/
theorem forms_agree {names : List String} (hplain : ∀ name ∈ names, Segment.PlainName name.toList)
    (hdistinct : names.Nodup) :
    ∃ listed mapped, ofValue (.ofTexts names) = .ok listed ∧
      ofValue (.object (Members.ofPairs (selfEntries names))) = .ok mapped ∧
      ∀ (store : Store) (result : Value),
        store.extract listed result = store.extract mapped result ∧
          listed.found result = mapped.found result := by
  refine ⟨.fields names, .paths (selfEntries names), ofValue_toValue (.fields names), ?_, ?_⟩
  · rw [ofPairs_selfEntries hdistinct]
    rfl
  · intro store result
    have hreadings := readings_selfEntries hplain (sourceOf result)
    constructor
    · rw [Store.extract, Store.extract, hreadings]
    · rw [found, found, hreadings]

/-- Names with a blank and with digits in them, and one for which there is nothing. -/
def parcelNames : List String :=
  ["12a", "gone", "to door"]

/-- Parameters that hold a value for the name without one. -/
def parcelStore : Store :=
  .ofPairs [("gone", .bool true), ("kept", .null), ("12a", .text "old")]

def parcelResult : Value :=
  .list [.object [("to door", .list [.text "x"]), ("12a", .null)], .text "gone"]

theorem forms_agree_parcel :
    (∀ name ∈ parcelNames, Segment.PlainName name.toList) ∧ parcelNames.Nodup ∧
      ∃ listed mapped, ofValue (.list [.text "12a", .text "gone", .text "to door"]) = .ok listed ∧
        ofValue (.object [("12a", .text "12a"), ("gone", .text "gone"),
          ("to door", .text "to door")]) = .ok mapped ∧
        parcelStore.extract listed parcelResult = parcelStore.extract mapped parcelResult ∧
        (parcelStore.extract mapped parcelResult).keys = ["12a", "kept", "to door"] ∧
        mapped.found parcelResult = 2 := by
  have hplain : ∀ name ∈ parcelNames, Segment.PlainName name.toList := by decide +kernel
  have hdistinct : parcelNames.Nodup := by decide
  obtain ⟨listed, mapped, hlisted, hmapped, hagree⟩ := forms_agree hplain hdistinct
  obtain ⟨hstore, hfound⟩ := hagree parcelStore parcelResult
  have hfields : listed = .fields parcelNames := by
    cases hlisted
    rfl
  refine ⟨hplain, hdistinct, listed, mapped, hlisted, ?_, hstore, ?_, ?_⟩
  · rw [ofPairs_selfEntries hdistinct] at hmapped
    exact hmapped
  · rw [← hstore, hfields]
    decide +kernel
  · rw [← hfound, hfields]
    decide +kernel

end ValueMap

end FlowRunner
