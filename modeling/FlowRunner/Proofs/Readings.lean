import FlowRunner.Proofs.Extraction
import Mathlib.Data.Set.Card

/-!
# What an extraction reads

Each entry of a value map reads a part of a result for a key, or nothing (`ValueMap.Reads`). The
entries are written one after another into one store, where a removal moves another key, but nothing
of that shows in the end: every key that an entry is for holds what the entry reads, all other keys
hold what they held, and extracting once more changes nothing (`Store.extract_reads`).

The readings agree: where two entries are for the same key, they read the same. That is why the
order of the entries decides nothing, and why the second extraction finds everything in place.
-/

namespace FlowRunner

namespace Members

variable {α : Type}

/-- Setting what is there already changes nothing. -/
theorem put_of_get? {key : String} {value : α} {members : List (String × α)}
    (h : get? key members = some value) : put key value members = members := by
  induction members with
  | nil => cases h
  | cons member rest ih =>
    obtain ⟨k, v⟩ := member
    by_cases hk : k = key
    · simp only [get?, hk, if_true, Option.some.injEq] at h
      simp [put, hk, h]
    · rw [get?, if_neg hk] at h
      rw [put, if_neg hk, ih h]

end Members

/-- The positions at which a list has an item of some kind are as many as there are such items. -/
theorem encard_positions {α : Type} (p : α → Bool) (items : List α) :
    {i : Nat | ∃ a, items[i]? = some a ∧ p a = true}.encard = items.countP p := by
  induction items with
  | nil => simp
  | cons a rest ih =>
    have hshift : {i : Nat | ∃ b, (a :: rest)[i]? = some b ∧ p b = true} \ {0} =
        Nat.succ '' {i : Nat | ∃ b, rest[i]? = some b ∧ p b = true} := by
      ext i
      cases i with
      | zero => simp
      | succ i => simp
    have hrest := Nat.succ_injective.encard_image {i : Nat | ∃ b, rest[i]? = some b ∧ p b = true}
    rw [← hshift, ih] at hrest
    by_cases ha : p a = true
    · have hzero : 0 ∈ {i : Nat | ∃ b, (a :: rest)[i]? = some b ∧ p b = true} := ⟨a, rfl, ha⟩
      rw [← Set.encard_sdiff_singleton_add_one hzero, hrest, List.countP_cons_of_pos ha]
      rfl
    · have hzero : 0 ∉ {i : Nat | ∃ b, (a :: rest)[i]? = some b ∧ p b = true} := by simp [ha]
      rw [List.countP_cons_of_neg ha, ← hrest, Set.sdiff_singleton_eq_self hzero]

namespace ValueMap

/-- No key has two entries, where entries have keys of their own. -/
def Distinct : ValueMap → Prop
  | .fields _ => True
  | .paths entries => Members.Distinct entries

/-- What is read of a result: the first item of a list, null where it has none, and all of any other
result. -/
inductive Source : (result source : Value) → Prop
  | first (item : Value) (rest : List Value) : Source (.list (item :: rest)) item
  | nothing : Source (.list []) .null
  | whole {result : Value} (h : ∀ items, result ≠ .list items) : Source result result

theorem source_sourceOf (result : Value) : Source result (sourceOf result) := by
  cases result with
  | list items =>
    cases items with
    | nil => exact .nothing
    | cons item rest => exact .first item rest
  | null => exact .whole nofun
  | bool b => exact .whole nofun
  | number n => exact .whole nofun
  | text s => exact .whole nofun
  | object members => exact .whole nofun

/-- The entry at a position is for a key, and what it reads there of a source. -/
inductive Reads (source : Value) : ValueMap → Nat → String → Option Value → Prop
  | field {names : List String} {i : Nat} {name : String} (h : names[i]? = some name) :
    Reads source (.fields names) i name (source.member? name)
  | path {entries : List (String × Value)} {i : Nat} {key path : String}
    (h : entries[i]? = some (key, .text path)) :
    Reads source (.paths entries) i key (source.lookup? path.toList)
  | all {entries : List (String × Value)} {i : Nat} {key : String} {entry : Value}
    (h : entries[i]? = some (key, entry)) (hentry : ∀ path, entry ≠ .text path) :
    Reads source (.paths entries) i key (some source)

theorem entryValue?_of_ne_text {entry : Value} (h : ∀ path, entry ≠ .text path) (source : Value) :
    entryValue? source entry = some source := by
  unfold entryValue?
  split
  · exact absurd rfl (h _)
  · rfl

theorem reads_iff {source : Value} {valueMap : ValueMap} {i : Nat} {key : String}
    {value : Option Value} :
    valueMap.Reads source i key value ↔ (valueMap.readings source)[i]? = some (key, value) := by
  constructor
  · intro h
    cases h with
    | field h => simp [readings, h]
    | path h => simp [readings, h, entryValue?]
    | all h hentry => simp [readings, h, entryValue?_of_ne_text hentry]
  · intro h
    cases valueMap with
    | fields names =>
      simp only [readings, List.getElem?_map, Option.map_eq_some_iff] at h
      obtain ⟨name, hname, h⟩ := h
      cases h
      exact .field hname
    | paths entries =>
      simp only [readings, List.getElem?_map, Option.map_eq_some_iff] at h
      obtain ⟨⟨k, entry⟩, hentry, h⟩ := h
      by_cases htext : ∃ path, entry = .text path
      · obtain ⟨path, rfl⟩ := htext
        cases h
        exact .path hentry
      · have hother := not_exists.mp htext
        rw [entryValue?_of_ne_text hother] at h
        cases h
        exact .all hentry hother

theorem exists_reads_iff {source : Value} {valueMap : ValueMap} {key : String}
    {value : Option Value} :
    (∃ i, valueMap.Reads source i key value) ↔ (key, value) ∈ valueMap.readings source := by
  rw [List.mem_iff_getElem?]
  exact exists_congr fun i => reads_iff

/-- Entries for the same key read the same. -/
theorem Distinct.readings_agree {valueMap : ValueMap} (h : valueMap.Distinct) {source : Value}
    {key : String} {value other : Option Value} (hvalue : (key, value) ∈ valueMap.readings source)
    (hother : (key, other) ∈ valueMap.readings source) : value = other := by
  cases valueMap with
  | fields names =>
    obtain ⟨name, -, hname⟩ := List.mem_map.mp hvalue
    obtain ⟨name', -, hname'⟩ := List.mem_map.mp hother
    cases hname
    cases hname'
    rfl
  | paths entries =>
    obtain ⟨⟨k, entry⟩, hentry, heq⟩ := List.mem_map.mp hvalue
    obtain ⟨⟨k', entry'⟩, hentry', heq'⟩ := List.mem_map.mp hother
    cases heq
    cases heq'
    have hsame : entry = entry' := by
      have hget := (Members.get?_eq_some_iff h).mpr hentry
      rw [(Members.get?_eq_some_iff h).mpr hentry'] at hget
      exact (Option.some.inj hget).symm
    rw [hsame]

theorem found_eq_ncard (valueMap : ValueMap) (result : Value) :
    valueMap.found result =
      {i | ∃ key value, valueMap.Reads (sourceOf result) i key (some value)}.ncard := by
  have hpositions : {i | ∃ key value, valueMap.Reads (sourceOf result) i key (some value)} =
      {i | ∃ reading, (valueMap.readings (sourceOf result))[i]? = some reading ∧
        reading.2.isSome = true} := by
    ext i
    constructor
    · rintro ⟨key, value, hreads⟩
      exact ⟨(key, some value), reads_iff.mp hreads, rfl⟩
    · rintro ⟨⟨key, value⟩, hreading, hsome⟩
      obtain ⟨v, rfl⟩ := Option.isSome_iff_exists.mp hsome
      exact ⟨key, v, reads_iff.mpr hreading⟩
  rw [hpositions, Set.ncard, encard_positions, ENat.toNat_natCast]
  rfl

end ValueMap

namespace Store

theorem record_of_get? {store : Store} {key : String} {value : Option Value}
    (h : store.get? key = value) : store.record key value = store := by
  cases value with
  | none => exact Store.ext (Members.erase_of_not_mem (Members.get?_eq_none_iff.mp h))
  | some v => exact Store.ext (Members.put_of_get? h)

/-- Readings that a store holds already are recorded without a change. -/
theorem foldl_record_of_held {store : Store} {readings : List (String × Option Value)}
    (h : ∀ reading ∈ readings, store.get? reading.1 = reading.2) :
    readings.foldl (fun soFar reading => soFar.record reading.1 reading.2) store = store := by
  induction readings with
  | nil => rfl
  | cons reading rest ih =>
    obtain ⟨hfirst, hrest⟩ := List.forall_mem_cons.mp h
    rw [List.foldl_cons, record_of_get? hfirst]
    exact ih hrest

theorem get?_extract_of_mem {store : Store} {valueMap : ValueMap}
    (hmap : valueMap.Distinct) {result : Value} {key : String} {value : Option Value}
    (h : (key, value) ∈ valueMap.readings (ValueMap.sourceOf result)) :
    (store.extract valueMap result).get? key = value := by
  rw [extract, get?_foldl_record]
  -- Some entry for the key comes last, and it reads what this one reads.
  cases hlast : Members.get? key (valueMap.readings (ValueMap.sourceOf result)).reverse with
  | none =>
    rw [Members.get?_eq_none_iff, Members.keys_reverse, List.mem_reverse] at hlast
    exact absurd (List.mem_map_of_mem h) hlast
  | some last =>
    have hmem := List.mem_reverse.mp (Members.mem_of_get?_eq_some hlast)
    exact hmap.readings_agree hmem h

theorem get?_extract_of_not_mem {store : Store} {valueMap : ValueMap}
    {result : Value} {key : String}
    (h : ∀ value, (key, value) ∉ valueMap.readings (ValueMap.sourceOf result)) :
    (store.extract valueMap result).get? key = store.get? key := by
  have hkey : key ∉ Members.keys (valueMap.readings (ValueMap.sourceOf result)).reverse := by
    rw [Members.keys_reverse, List.mem_reverse]
    intro hmem
    obtain ⟨⟨k, value⟩, hreading, rfl⟩ := List.mem_map.mp hmem
    exact h value hreading
  rw [extract, get?_foldl_record, Members.get?_eq_none_iff.mpr hkey, Option.getD_none]

theorem extract_extract {store : Store} {valueMap : ValueMap}
    (hmap : valueMap.Distinct) (result : Value) :
    (store.extract valueMap result).extract valueMap result = store.extract valueMap result :=
  foldl_record_of_held fun _ hreading => get?_extract_of_mem hmap hreading

-- The last key takes the place of the one that is removed.
example : ((Store.ofPairs [("token", .null), ("user", .null), ("id", .null)]).extract
    (.fields ["token", "state"]) (.object [("state", .text "over")])).keys =
      ["id", "user", "state"] := by
  decide +kernel

/-- After an extraction the keys of the value map hold what their entries read, nothing where an
entry reads nothing, and all other keys hold what they held. As many entries count as found as read
a value, and the same extraction leaves the store as it is then, the order of its keys included. -/
theorem extract_reads (store : Store) {valueMap : ValueMap}
    (hmap : valueMap.Distinct) (result : Value) :
    ∃ source, ValueMap.Source result source ∧
      (∀ key, (∀ i value, ¬ valueMap.Reads source i key value) →
        (store.extract valueMap result).get? key = store.get? key) ∧
      (∀ i key value, valueMap.Reads source i key value →
        (store.extract valueMap result).get? key = value) ∧
      valueMap.found result = {i | ∃ key value, valueMap.Reads source i key (some value)}.ncard ∧
      (store.extract valueMap result).extract valueMap result = store.extract valueMap result := by
  refine ⟨_, ValueMap.source_sourceOf result, ?_, ?_, valueMap.found_eq_ncard result,
    extract_extract hmap result⟩
  · intro key hnone
    refine get?_extract_of_not_mem fun value hreading => ?_
    obtain ⟨i, hreads⟩ := ValueMap.exists_reads_iff.mpr hreading
    exact hnone i value hreads
  · intro i key value hreads
    exact get?_extract_of_mem hmap (ValueMap.exists_reads_iff.mp ⟨i, hreads⟩)

/-- Parameters of a session that is over. -/
def staleSession : Store :=
  .ofPairs [("token", .text "t-0"), ("user", .text "eve"), ("id", .ofInt 1), ("seen", .bool true)]

/-- Keeps a token, a number and the whole answer. -/
def sessionMap : ValueMap :=
  .paths [("token", .text "session/token"), ("id", .text "roles[0]/id|int"), ("answer", .null)]

/-- An answer without a token. -/
def sessionAnswer : Value :=
  .list [.object [("roles", .list [.object [("id", .text "7")]])], .null]

theorem extract_reads_session :
    sessionMap.Distinct ∧
      (staleSession.extract sessionMap sessionAnswer).get? "token" = none ∧
      (staleSession.extract sessionMap sessionAnswer).get? "user" = some (.text "eve") ∧
      (staleSession.extract sessionMap sessionAnswer).get? "id" = some (.ofInt 7) ∧
      sessionMap.found sessionAnswer = 2 ∧
      (staleSession.extract sessionMap sessionAnswer).extract sessionMap sessionAnswer =
        staleSession.extract sessionMap sessionAnswer := by
  have hmap : sessionMap.Distinct := by
    change Members.Distinct _
    decide
  have hkeys : "user" ∉ Members.keys (sessionMap.readings (ValueMap.sourceOf sessionAnswer)) := by
    decide +kernel
  obtain ⟨source, hsource, hkept, hheld, -, hagain⟩ := extract_reads staleSession hmap sessionAnswer
  unfold sessionAnswer at hsource
  cases hsource with
  | whole h => exact absurd rfl (h _)
  | first item rest =>
    refine ⟨hmap, ?_, ?_, ?_, by decide +kernel, hagain⟩
    · have htoken := hheld 0 "token" _ (.path rfl)
      rw [htoken]
      with_unfolding_all rfl
    · refine hkept "user" fun i value hreads => hkeys ?_
      exact List.mem_map_of_mem (ValueMap.exists_reads_iff.mp ⟨i, hreads⟩)
    · have hid := hheld 1 "id" _ (.path rfl)
      rw [hid]
      with_unfolding_all rfl

end Store

end FlowRunner
