import FlowRunner.Proofs.DistinctKeys
import FlowRunner.Response.Extraction

/-!
# Stores after an extraction

A value map is for some keys of the store. After an extraction a key that it is for holds what is
read for it, or nothing, and every other key holds what it held (`Store.get?_extract`).
-/

namespace FlowRunner

namespace ValueMap

/-- The keys of the store that a value map is for. -/
def keys : ValueMap → List String
  | .fields names => names
  | .paths entries => Members.keys entries

/-- What is read for a key: the field of that name, or what the entry for the key leads to. Where
a key has several entries, the last one counts. -/
def read? (valueMap : ValueMap) (key : String) (source : Value) : Option Value :=
  match valueMap with
  | .fields _ => source.member? key
  | .paths entries => (Members.get? key entries.reverse).bind (entryValue? source)

theorem get?_reverse_fields (key : String) (source : Value) (names : List String) :
    Members.get? key ((ValueMap.fields names).readings source).reverse =
      if key ∈ names then some (source.member? key) else none := by
  induction names with
  | nil => rfl
  | cons name rest ih =>
    simp only [readings] at ih ⊢
    rw [List.map_cons, List.reverse_cons, Members.get?_append, ih]
    by_cases hrest : key ∈ rest
    · simp [hrest]
    · by_cases hname : name = key
      · simp [hrest, hname, Members.get?]
      · simp [hrest, hname, Ne.symm hname, Members.get?]

theorem get?_reverse_paths (key : String) (source : Value) (entries : List (String × Value)) :
    Members.get? key ((ValueMap.paths entries).readings source).reverse =
      if key ∈ Members.keys entries then some ((ValueMap.paths entries).read? key source)
      else none := by
  simp only [readings]
  rw [← List.map_reverse, Members.get?_map]
  cases hentry : Members.get? key entries.reverse with
  | none =>
    rw [Members.get?_eq_none_iff, Members.keys_reverse, List.mem_reverse] at hentry
    rw [if_neg hentry, Option.map_none]
  | some entry =>
    have hkey : key ∈ Members.keys entries :=
      List.mem_map.mpr ⟨_, List.mem_reverse.mp (Members.mem_of_get?_eq_some hentry), rfl⟩
    rw [if_pos hkey, Option.map_some, read?, hentry, Option.bind_some]

theorem get?_reverse_readings (valueMap : ValueMap) (key : String) (source : Value) :
    Members.get? key (valueMap.readings source).reverse =
      if key ∈ valueMap.keys then some (valueMap.read? key source) else none := by
  cases valueMap with
  | fields names => exact get?_reverse_fields key source names
  | paths entries => exact get?_reverse_paths key source entries

end ValueMap

namespace Store

variable (store : Store)

theorem get?_record (key other : String) (value : Option Value) :
    (store.record key value).get? other = if other = key then value else store.get? other := by
  cases value with
  | none => exact Members.get?_erase store.distinct key other
  | some v => exact Members.get?_put key other v store.entries

/-- The readings recorded in turn: the last one for a key counts. -/
theorem get?_foldl_record (readings : List (String × Option Value)) (key : String) :
    (readings.foldl (fun soFar reading => soFar.record reading.1 reading.2) store).get? key =
      (Members.get? key readings.reverse).getD (store.get? key) := by
  induction readings generalizing store with
  | nil => rfl
  | cons reading rest ih =>
    rw [List.foldl_cons, ih, get?_record, List.reverse_cons, Members.get?_append]
    cases Members.get? key rest.reverse with
    | some value => rfl
    | none =>
      by_cases hkey : reading.1 = key
      · simp [Members.get?, hkey]
      · simp [Members.get?, hkey, Ne.symm hkey]

/-- After an extraction, a key that the value map is for holds what is read for it and every other
key holds what it held. -/
theorem get?_extract (valueMap : ValueMap) (result : Value) (key : String) :
    (store.extract valueMap result).get? key =
      if key ∈ valueMap.keys then valueMap.read? key (ValueMap.sourceOf result)
      else store.get? key := by
  rw [extract, get?_foldl_record, ValueMap.get?_reverse_readings]
  split <;> rfl

end Store

end FlowRunner
