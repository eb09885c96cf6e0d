/-!
# Members of objects

The members of an object are a list of keys and values in which no key comes twice. `put` keeps the
place of a key it replaces and appends a new one, `erase` moves the last member into the freed
place; both leave the keys distinct (`Members.distinct_put`, `Members.distinct_erase`).
-/

namespace FlowRunner

namespace Members

variable {α : Type}

/-- The value under a key. -/
def get? (key : String) : List (String × α) → Option α
  | [] => none
  | (k, v) :: rest => if k = key then some v else get? key rest

/-- Whether a key is present. -/
def has (key : String) (members : List (String × α)) : Bool :=
  (get? key members).isSome

/-- Sets the value under a key, in place when the key is present and at the end otherwise. -/
def put (key : String) (value : α) : List (String × α) → List (String × α)
  | [] => [(key, value)]
  | (k, v) :: rest => if k = key then (key, value) :: rest else (k, v) :: put key value rest

/-- Removes a key; the last member takes its place. -/
def erase (key : String) : List (String × α) → List (String × α)
  | [] => []
  | (k, v) :: rest =>
    if k = key then
      match rest.getLast? with
      | none => []
      | some last => last :: rest.dropLast
    else (k, v) :: erase key rest

/-- Sets every given pair in turn, so that the last value under a key stays, at its first place. -/
def merge (members : List (String × α)) (pairs : List (String × α)) : List (String × α) :=
  pairs.foldl (fun soFar pair => put pair.1 pair.2 soFar) members

/-- The members made by setting every given pair in turn. -/
def ofPairs (pairs : List (String × α)) : List (String × α) :=
  merge [] pairs

/-- The keys, in order. -/
def keys (members : List (String × α)) : List String :=
  members.map Prod.fst

@[simp] theorem get?_nil (key : String) : get? key ([] : List (String × α)) = none := rfl

theorem get?_put_self (key : String) (value : α) (members : List (String × α)) :
    get? key (put key value members) = some value := by
  induction members with
  | nil => simp [put, get?]
  | cons member rest ih =>
    obtain ⟨k, v⟩ := member
    by_cases h : k = key <;> simp [put, get?, h, ih]

theorem get?_put_of_ne {key other : String} (h : other ≠ key) (value : α)
    (members : List (String × α)) : get? other (put key value members) = get? other members := by
  induction members with
  | nil => simp [put, get?, Ne.symm h]
  | cons member rest ih =>
    obtain ⟨k, v⟩ := member
    by_cases hk : k = key
    · subst hk; simp [put, get?, Ne.symm h]
    · simp only [put, hk, if_false, get?, ih]

/-! ## Distinct keys -/

/-- No key comes twice. -/
def Distinct (members : List (String × α)) : Prop :=
  (keys members).Nodup

instance (members : List (String × α)) : Decidable (Distinct members) :=
  inferInstanceAs (Decidable (keys members).Nodup)

@[simp] theorem keys_nil : keys ([] : List (String × α)) = [] := rfl

@[simp] theorem keys_cons (member : String × α) (rest : List (String × α)) :
    keys (member :: rest) = member.1 :: keys rest := rfl

theorem keys_put (key : String) (value : α) (members : List (String × α)) :
    keys (put key value members) =
      if key ∈ keys members then keys members else keys members ++ [key] := by
  induction members with
  | nil => rfl
  | cons member rest ih =>
    obtain ⟨k, v⟩ := member
    by_cases h : k = key
    · simp [put, h]
    · simp only [put, if_neg h, keys_cons, ih, List.mem_cons, Ne.symm h, false_or]
      split <;> rfl

theorem distinct_put {members : List (String × α)} (h : Distinct members) (key : String)
    (value : α) : Distinct (put key value members) := by
  unfold Distinct
  rw [keys_put]
  split
  · exact h
  · rename_i hkey
    rw [List.nodup_append]
    refine ⟨h, List.nodup_cons.mpr ⟨List.not_mem_nil, List.nodup_nil⟩, ?_⟩
    rintro k hk _ hmem rfl
    exact hkey (List.mem_singleton.mp hmem ▸ hk)

theorem distinct_merge {members : List (String × α)} (h : Distinct members)
    (pairs : List (String × α)) : Distinct (merge members pairs) := by
  unfold merge
  induction pairs generalizing members with
  | nil => exact h
  | cons pair rest ih => exact ih (distinct_put h pair.1 pair.2)

theorem distinct_nil : Distinct ([] : List (String × α)) :=
  List.nodup_nil

theorem distinct_ofPairs (pairs : List (String × α)) : Distinct (ofPairs pairs) :=
  distinct_merge distinct_nil pairs

theorem erase_perm (key : String) (members : List (String × α)) :
    (erase key members).Perm (members.eraseP fun member => member.1 == key) := by
  induction members with
  | nil => rfl
  | cons member rest ih =>
    obtain ⟨k, v⟩ := member
    by_cases h : k = key
    · rw [erase, if_pos h, List.eraseP_cons_of_pos (by simpa using h)]
      cases hlast : rest.getLast? with
      | none => rw [List.getLast?_eq_none_iff.mp hlast]
      | some last =>
        obtain ⟨front, rfl⟩ := List.getLast?_eq_some_iff.mp hlast
        dsimp only
        rw [List.dropLast_concat]
        exact (List.perm_append_singleton last front).symm
    · rw [erase, if_neg h, List.eraseP_cons_of_neg (by simpa using h)]
      exact ih.cons _

theorem keys_erase_perm (key : String) (members : List (String × α)) :
    (keys (erase key members)).Perm ((keys members).erase key) := by
  have hkeys : (keys members).erase key =
      keys (members.eraseP fun member => member.1 == key) := by
    rw [List.erase_eq_eraseP', keys, List.eraseP_map]
    rfl
  rw [hkeys]
  exact (erase_perm key members).map Prod.fst

theorem distinct_erase {members : List (String × α)} (h : Distinct members) (key : String) :
    Distinct (erase key members) :=
  (keys_erase_perm key members).nodup_iff.mpr (h.erase key)

end Members

end FlowRunner
