import FlowRunner.Flow.Store
import Mathlib.Data.List.Nodup

/-!
# Members with distinct keys

What makes a list of members an object: no key comes twice. On such members, setting and removing
change what stands under their own key and nothing else.

* `Members.ext`: the order of the keys and what stands under them are all there is.
* `Members.get?_put`, `Members.get?_merge`, `Members.get?_erase`: what stands under a key after a
  change.
* `Members.keys_merge`, `Members.keys_erase`: the order of the keys after it.
* `Members.ofPairs_of_distinct`: such members are made by setting each of them in turn.
-/

namespace FlowRunner

namespace Members

variable {α : Type}

@[simp] theorem keys_reverse (members : List (String × α)) :
    keys members.reverse = (keys members).reverse :=
  List.map_reverse

theorem Distinct.sublist {members others : List (String × α)} (h : Distinct others)
    (hsublist : members.Sublist others) : Distinct members :=
  List.Nodup.sublist (hsublist.map Prod.fst) h

/-! ## What stands under a key -/

theorem get?_eq_none_iff {key : String} {members : List (String × α)} :
    get? key members = none ↔ key ∉ keys members := by
  induction members with
  | nil => simp
  | cons member rest ih =>
    obtain ⟨k, v⟩ := member
    by_cases h : k = key
    · simp [get?, h]
    · simp [get?, h, ih, Ne.symm h]

theorem mem_of_get?_eq_some {key : String} {value : α} {members : List (String × α)}
    (h : get? key members = some value) : (key, value) ∈ members := by
  induction members with
  | nil => cases h
  | cons member rest ih =>
    obtain ⟨k, v⟩ := member
    by_cases hk : k = key
    · simp only [get?, hk, if_true, Option.some.injEq] at h
      simp [hk, h]
    · rw [get?, if_neg hk] at h
      exact List.mem_cons_of_mem _ (ih h)

theorem get?_eq_some_iff {key : String} {value : α} {members : List (String × α)}
    (h : Distinct members) : get? key members = some value ↔ (key, value) ∈ members := by
  refine ⟨mem_of_get?_eq_some, fun hmem => ?_⟩
  induction members with
  | nil => cases hmem
  | cons member rest ih =>
    obtain ⟨k, v⟩ := member
    obtain ⟨hk, hrest⟩ := List.nodup_cons.mp h
    rcases List.mem_cons.mp hmem with heq | hmem
    · cases heq
      simp [get?]
    · have hne : k ≠ key := by
        rintro rfl
        exact hk (List.mem_map.mpr ⟨_, hmem, rfl⟩)
      rw [get?, if_neg hne]
      exact ih hrest hmem

/-- The first member under a key hides the others. -/
theorem get?_append (key : String) (members more : List (String × α)) :
    get? key (members ++ more) = (get? key members <|> get? key more) := by
  induction members with
  | nil => simp
  | cons member rest ih =>
    obtain ⟨k, v⟩ := member
    by_cases h : k = key
    · simp [get?, h]
    · simp [get?, h, ih]

/-- The first member under a key is the one that is found. -/
theorem get?_eq_some_iff_exists {key : String} {value : α} {members : List (String × α)} :
    get? key members = some value ↔
      ∃ before after, members = before ++ (key, value) :: after ∧ key ∉ keys before := by
  constructor
  · intro h
    induction members with
    | nil => cases h
    | cons member rest ih =>
      obtain ⟨k, v⟩ := member
      by_cases hk : k = key
      · simp only [get?, hk, if_true, Option.some.injEq] at h
        exact ⟨[], rest, by simp [hk, h]⟩
      · rw [get?, if_neg hk] at h
        obtain ⟨before, after, hrest, hkey⟩ := ih h
        refine ⟨(k, v) :: before, after, by rw [hrest, List.cons_append], ?_⟩
        rw [keys_cons, List.mem_cons, not_or]
        exact ⟨Ne.symm hk, hkey⟩
  · rintro ⟨before, after, rfl, hkey⟩
    rw [get?_append, get?_eq_none_iff.mpr hkey]
    simp [get?]

theorem get?_append_cons_of_ne {key other : String} (h : other ≠ key)
    (before after : List (String × α)) (value : α) :
    get? other (before ++ (key, value) :: after) = get? other (before ++ after) := by
  rw [get?_append, get?_append, get?, if_neg (Ne.symm h)]

theorem get?_filter {members : List (String × α)} (h : Distinct members) (keep : α → Bool)
    (key : String) :
    get? key (members.filter fun member => keep member.2) = (get? key members).filter keep := by
  have hfilter : Distinct (members.filter fun member => keep member.2) :=
    h.sublist List.filter_sublist
  apply Option.ext
  intro value
  rw [get?_eq_some_iff hfilter, List.mem_filter, Option.filter_eq_some_iff, get?_eq_some_iff h]

theorem get?_map {β : Type} (key : String) (f : α → β) (members : List (String × α)) :
    get? key (members.map fun member => (member.1, f member.2)) = (get? key members).map f := by
  induction members with
  | nil => rfl
  | cons member rest ih =>
    by_cases h : member.1 = key
    · simp [get?, h]
    · simp [get?, h, ih]

/-- Members in an order are known by what stands under their keys. -/
theorem ext {members others : List (String × α)} (h : Distinct members)
    (hkeys : keys others = keys members) (hget : ∀ key, get? key others = get? key members) :
    others = members := by
  induction members generalizing others with
  | nil => exact List.map_eq_nil_iff.mp hkeys
  | cons member rest ih =>
    obtain ⟨k, v⟩ := member
    obtain ⟨hk, hrest⟩ := List.nodup_cons.mp h
    cases others with
    | nil => cases hkeys
    | cons other more =>
      obtain ⟨j, w⟩ := other
      obtain ⟨rfl, hmore⟩ := List.cons.inj hkeys
      have hvalue : w = v := by simpa [get?] using hget j
      have hjmore : j ∉ keys more := by
        rw [keys, hmore]
        exact hk
      have htail : more = rest := by
        refine ih hrest hmore fun key => ?_
        by_cases hkey : j = key
        · subst hkey
          rw [get?_eq_none_iff.mpr hk, get?_eq_none_iff.mpr hjmore]
        · simpa [get?, hkey] using hget key
      rw [hvalue, htail]

theorem Distinct.perm {members others : List (String × α)} (h : Distinct members)
    (hperm : members.Perm others) : Distinct others :=
  (hperm.map Prod.fst).nodup_iff.mp h

/-- The order of the members decides nothing about what stands under a key. -/
theorem get?_perm {members others : List (String × α)} (h : Distinct members)
    (hperm : members.Perm others) (key : String) : get? key others = get? key members := by
  apply Option.ext
  intro value
  rw [get?_eq_some_iff (h.perm hperm), get?_eq_some_iff h, hperm.mem_iff]

theorem get?_reverse {members : List (String × α)} (h : Distinct members) (key : String) :
    get? key members.reverse = get? key members :=
  get?_perm h (List.reverse_perm members).symm key

/-! ## Setting -/

theorem get?_put (key other : String) (value : α) (members : List (String × α)) :
    get? other (put key value members) =
      if other = key then some value else get? other members := by
  by_cases h : other = key
  · rw [if_pos h, h, get?_put_self]
  · rw [if_neg h, get?_put_of_ne h]

theorem put_of_not_mem {key : String} {members : List (String × α)} (h : key ∉ keys members)
    (value : α) : put key value members = members ++ [(key, value)] := by
  induction members with
  | nil => rfl
  | cons member rest ih =>
    obtain ⟨k, v⟩ := member
    rw [keys_cons, List.mem_cons, not_or] at h
    rw [put, if_neg (Ne.symm h.1), ih h.2, List.cons_append]

/-- Members with other keys are put behind. -/
theorem merge_of_distinct {members pairs : List (String × α)} (h : Distinct (members ++ pairs)) :
    merge members pairs = members ++ pairs := by
  unfold merge
  induction pairs generalizing members with
  | nil => simp
  | cons pair rest ih =>
    obtain ⟨k, v⟩ := pair
    have hk : k ∉ keys members := by
      unfold Distinct keys at h
      rw [List.map_append, List.nodup_append] at h
      exact fun hmem => h.2.2 k hmem k List.mem_cons_self rfl
    rw [← List.singleton_append, ← List.append_assoc] at h
    rw [List.foldl_cons, put_of_not_mem hk, ih h, List.append_assoc, List.singleton_append]

theorem ofPairs_of_distinct {pairs : List (String × α)} (h : Distinct pairs) :
    ofPairs pairs = pairs :=
  merge_of_distinct h

/-- The last of several values for a key counts. -/
theorem get?_merge (key : String) (members pairs : List (String × α)) :
    get? key (merge members pairs) = (get? key pairs.reverse <|> get? key members) := by
  unfold merge
  induction pairs generalizing members with
  | nil => rfl
  | cons pair rest ih =>
    obtain ⟨k, v⟩ := pair
    rw [List.foldl_cons, ih, get?_put, List.reverse_cons, get?_append]
    cases get? key rest.reverse with
    | some value => rfl
    | none =>
      by_cases hkey : key = k
      · simp [get?, hkey]
      · simp [get?, hkey, Ne.symm hkey]

/-- New keys come after the others, in the order in which they first appear. -/
theorem keys_merge (members pairs : List (String × α)) :
    keys (merge members pairs) =
      keys members ++ ((keys pairs).filter fun key => key ∉ keys members).eraseDups := by
  unfold merge
  induction pairs generalizing members with
  | nil => simp
  | cons pair rest ih =>
    obtain ⟨k, v⟩ := pair
    rw [List.foldl_cons, ih, keys_put, keys_cons]
    by_cases hk : k ∈ keys members
    · rw [if_pos hk, List.filter_cons_of_neg (by simpa using hk)]
    · rw [if_neg hk, List.filter_cons_of_pos (by simpa using hk), List.eraseDups_cons,
        List.filter_filter, List.append_assoc, List.singleton_append]
      have hfilter : ((keys rest).filter fun key => key ∉ keys members ++ [k]) =
          (keys rest).filter fun key => (!key == k) && decide (key ∉ keys members) := by
        refine List.filter_congr fun key _ => ?_
        by_cases hkey : key = k <;> simp [hkey]
      rw [hfilter]

/-- Merging new values for the same keys replaces all. -/
theorem merge_of_keys_eq {members pairs : List (String × α)} (h : Distinct members)
    (hkeys : keys pairs = keys members) : merge members pairs = pairs := by
  have hpairs : Distinct pairs := by
    unfold Distinct
    rw [hkeys]
    exact h
  refine ext hpairs ?_ fun key => ?_
  · have hnew : ((keys pairs).filter fun key => key ∉ keys members) = [] := by
      simp [hkeys]
    rw [keys_merge, hnew, hkeys, List.eraseDups_nil, List.append_nil]
  · rw [get?_merge, get?_reverse hpairs]
    cases hget : get? key pairs with
    | some value => rfl
    | none =>
      rw [get?_eq_none_iff, hkeys, ← get?_eq_none_iff] at hget
      rw [hget]
      rfl

/-! ## Removing -/

theorem get?_erase {members : List (String × α)} (h : Distinct members) (key other : String) :
    get? other (erase key members) = if other = key then none else get? other members := by
  split
  · rename_i heq
    rw [heq, get?_eq_none_iff, (keys_erase_perm key members).mem_iff]
    exact h.not_mem_erase
  · rename_i hne
    apply Option.ext
    intro value
    rw [get?_eq_some_iff (distinct_erase h key), get?_eq_some_iff h,
      (erase_perm key members).mem_iff, List.mem_eraseP_of_neg (by simpa using hne)]

theorem erase_of_not_mem {key : String} {members : List (String × α)}
    (h : key ∉ keys members) : erase key members = members := by
  induction members with
  | nil => rfl
  | cons member rest ih =>
    obtain ⟨k, v⟩ := member
    rw [keys_cons, List.mem_cons, not_or] at h
    rw [erase, if_neg (Ne.symm h.1), ih h.2]

/-- The last key moves into the place of a removed one. -/
theorem keys_erase {key : String} {members : List (String × α)} {before after : List String}
    (hmembers : keys members = before ++ key :: after) (hkey : key ∉ before) :
    keys (erase key members) = before ++ (after.getLast?.toList ++ after.dropLast) := by
  induction members generalizing before with
  | nil => simp at hmembers
  | cons member rest ih =>
    obtain ⟨k, v⟩ := member
    rw [keys_cons] at hmembers
    cases before with
    | nil =>
      obtain ⟨rfl, rfl⟩ := List.cons.inj hmembers
      rw [erase, if_pos rfl]
      unfold keys
      rw [List.getLast?_map, ← List.map_dropLast]
      cases hlast : rest.getLast? with
      | none => simp [List.getLast?_eq_none_iff.mp hlast]
      | some last => simp
    | cons first before =>
      obtain ⟨rfl, hrest⟩ := List.cons.inj hmembers
      rw [List.mem_cons, not_or] at hkey
      rw [erase, if_neg (Ne.symm hkey.1), keys_cons, ih hrest hkey.2]
      rfl

end Members

/-! ## Stores -/

namespace Store

variable (store : Store)

/-- A store is made up of its entries. -/
theorem ofPairs_entries : ofPairs store.entries = store :=
  Store.ext (Members.ofPairs_of_distinct store.distinct)

theorem get?_insertAll (pairs : List (String × Value)) (key : String) :
    (store.insertAll pairs).get? key = (Members.get? key pairs.reverse <|> store.get? key) :=
  Members.get?_merge key store.entries pairs

theorem keys_insertAll (pairs : List (String × Value)) :
    (store.insertAll pairs).keys =
      store.keys ++ ((Members.keys pairs).filter fun key => key ∉ store.keys).eraseDups :=
  Members.keys_merge store.entries pairs

/-- Merging new values for the same keys replaces all. -/
theorem insertAll_of_keys_eq {store next : Store} (h : next.keys = store.keys) :
    store.insertAll next.entries = next :=
  Store.ext (Members.merge_of_keys_eq store.distinct h)

end Store

end FlowRunner
