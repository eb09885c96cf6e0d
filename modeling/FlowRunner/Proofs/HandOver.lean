import FlowRunner.Proofs.Extraction
import FlowRunner.Proofs.Locations
import FlowRunner.Proofs.Placeholders

/-!
# Handing values over to later steps

What an extraction keeps under a key is what the placeholder of this key stands for afterwards,
wherever it stands alone in a value (`Placeholder.resolve_extract`). The value arrives as it was
read: it is not looked at for placeholders again, and a key for which nothing was read gives null,
whatever it held before.

* `Placeholder.at?_of_resolve`: resolving a value resolves what stands at each of its locations.
* `Placeholder.exists_leaf_of_resolve_error`: it fails only by a leaf that fails.
-/

namespace FlowRunner

namespace Placeholder

variable {store : Store} {e : ResolveError}

/-! ## Resolving inside a value -/

theorem getElem?_of_resolveItems {items results : List Value}
    (h : resolveItems store items = .ok results) {i : Nat} {v : Value}
    (hitem : items[i]? = some v) : ∃ w, resolve store v = .ok w ∧ results[i]? = some w := by
  induction items generalizing results i with
  | nil => cases hitem
  | cons item rest ih =>
    obtain ⟨w, ws, hw, hws, rfl⟩ := resolveItems_cons_eq_ok h
    cases i with
    | zero =>
      cases hitem
      exact ⟨w, hw, rfl⟩
    | succ i => exact ih hws hitem

theorem enter?_of_resolve {v w inner : Value} (h : resolve store v = .ok w) {turn : Turn}
    (henter : v.enter? turn = some inner) :
    ∃ result, resolve store inner = .ok result ∧ w.enter? turn = some result := by
  cases v with
  | list items =>
    rw [resolve, Except.map_eq_ok_iff] at h
    obtain ⟨results, hitems, rfl⟩ := h
    cases turn with
    | key name => cases henter
    | position i => exact getElem?_of_resolveItems hitems henter
  | object members =>
    rw [resolve, Except.map_eq_ok_iff] at h
    obtain ⟨results, hmembers, rfl⟩ := h
    cases turn with
    | key name => exact get?_of_resolveMembers hmembers henter
    | position i => cases henter
  | _ => cases turn <;> cases henter

/-- What stands at a location of a resolved value is what stood there, resolved. -/
theorem at?_of_resolve {v w inner : Value} (h : resolve store v = .ok w) {location : Location}
    (hat : v.at? location = some inner) :
    ∃ result, resolve store inner = .ok result ∧ w.at? location = some result := by
  induction location generalizing v w with
  | nil =>
    cases hat
    exact ⟨w, h, rfl⟩
  | cons turn rest ih =>
    rw [Value.at?_cons, Option.bind_eq_some_iff] at hat
    obtain ⟨next, henter, hnext⟩ := hat
    obtain ⟨mid, hmid, hturn⟩ := enter?_of_resolve h henter
    rw [Value.at?_cons, hturn]
    exact ih hmid hnext

mutual

/-- A value that does not resolve has a leaf that does not. -/
theorem exists_leaf_of_resolve_error {v : Value} (h : resolve store v = .error e) :
    ∃ leaf ∈ v.leaves, resolve store leaf.value = .error e := by
  match v with
  | .null => cases h
  | .bool b => cases h
  | .number n => cases h
  | .text s => exact ⟨⟨[], .text s, rfl⟩, List.mem_singleton.mpr rfl, h⟩
  | .list items =>
    rw [resolve, Except.map_eq_error_iff] at h
    exact exists_leaf_of_resolveItems_error h 0
  | .object members =>
    rw [resolve, Except.map_eq_error_iff] at h
    exact exists_leaf_of_resolveMembers_error h

theorem exists_leaf_of_resolveItems_error {items : List Value}
    (h : resolveItems store items = .error e) (index : Nat) :
    ∃ leaf ∈ Value.itemLeaves index items, resolve store leaf.value = .error e := by
  match items with
  | [] => cases h
  | v :: rest =>
    rw [Value.itemLeaves]
    rcases resolveItems_cons_eq_error h with hv | hrest
    · obtain ⟨leaf, hleaf, hfails⟩ := exists_leaf_of_resolve_error hv
      exact ⟨leaf.under _, List.mem_append_left _ (List.mem_map_of_mem hleaf), hfails⟩
    · obtain ⟨leaf, hleaf, hfails⟩ := exists_leaf_of_resolveItems_error hrest (index + 1)
      exact ⟨leaf, List.mem_append_right _ hleaf, hfails⟩

theorem exists_leaf_of_resolveMembers_error {members : List (String × Value)}
    (h : resolveMembers store members = .error e) :
    ∃ leaf ∈ Value.memberLeaves members, resolve store leaf.value = .error e := by
  match members with
  | [] => cases h
  | (key, v) :: rest =>
    rw [Value.memberLeaves]
    rcases resolveMembers_cons_eq_error h with hv | hrest
    · obtain ⟨leaf, hleaf, hfails⟩ := exists_leaf_of_resolve_error hv
      exact ⟨leaf.under _, List.mem_append_left _ (List.mem_map_of_mem hleaf), hfails⟩
    · obtain ⟨leaf, hleaf, hfails⟩ := exists_leaf_of_resolveMembers_error hrest
      exact ⟨leaf, List.mem_append_right _ hleaf, hfails⟩

end

/-! ## Keys of an extraction -/

theorem resolveText_token {key : String} (hkey : Nameable key.toList)
    (hplain : ¬ Increment.word <:+: key.toList) (store : Store) :
    resolveText store ("<<" ++ key ++ ">>") = .ok ((store.get? key).getD .null) := by
  have htoken : ("<<" ++ key ++ ">>").toList = token key.toList := by
    rw [String.toList_append, String.toList_append]
    rfl
  have hword : ¬ Increment.word <:+: ("<<" ++ key ++ ">>").toList := by
    rw [htoken, Increment.infix_token_iff]
    exact hplain
  have hwhole : wholeKey? (token key.toList) = some key.toList :=
    wholeKey?_eq_some_iff.mpr ⟨rfl, hkey⟩
  simp only [resolveText_eq_resolvePlain hword, htoken, resolvePlain, hwhole, String.ofList_toList]

theorem get?_extract_paths {entries : List (String × Value)}
    (hentries : Members.Distinct entries) {key : String} {entry : Value}
    (hentry : (key, entry) ∈ entries) (result : Value) :
    (store.extract (.paths entries) result).get? key =
      ValueMap.entryValue? (ValueMap.sourceOf result) entry := by
  have hkey : key ∈ (ValueMap.paths entries).keys := List.mem_map.mpr ⟨_, hentry, rfl⟩
  have hreverse : Members.Distinct entries.reverse :=
    hentries.perm (List.reverse_perm entries).symm
  have hget : Members.get? key entries.reverse = some entry :=
    (Members.get?_eq_some_iff hreverse).mpr (List.mem_reverse.mpr hentry)
  rw [Store.get?_extract, if_pos hkey, ValueMap.read?, hget, Option.bind_some]

/-- An entry that is a path keeps what the path reads. -/
theorem get?_extract_ofList {entries : List (String × Value)}
    (hentries : Members.Distinct entries) {key : String} {path : List Char}
    (hentry : (key, .text (String.ofList path)) ∈ entries) (result : Value) :
    (store.extract (.paths entries) result).get? key =
      (ValueMap.sourceOf result).lookup? path := by
  rw [get?_extract_paths hentries hentry, ValueMap.entryValue?, String.toList_ofList]

/-- After an extraction, the placeholder of a key that it is for stands for what was read for this
key, or for null when nothing was: by itself, and as a leaf anywhere in a value that resolves. A
value that holds it fails to resolve only by another leaf. -/
theorem resolve_extract (store : Store) {entries : List (String × Value)}
    (hentries : Members.Distinct entries) {key : String} {entry : Value}
    (hentry : (key, entry) ∈ entries) (hkey : Nameable key.toList)
    (hplain : ¬ Increment.word <:+: key.toList) (result : Value) :
    let next := store.extract (.paths entries) result
    let kept := (ValueMap.entryValue? (ValueMap.sourceOf result) entry).getD .null
    resolve next (.text ("<<" ++ key ++ ">>")) = .ok kept ∧
      ∀ v location, v.at? location = some (.text ("<<" ++ key ++ ">>")) →
        (∀ w, resolve next v = .ok w → w.at? location = some kept) ∧
        ∀ e, resolve next v = .error e →
          ∃ leaf ∈ v.leaves, leaf.value ≠ .text ("<<" ++ key ++ ">>") ∧
            resolve next leaf.value = .error e := by
  intro next kept
  have hget : (next.get? key).getD .null = kept :=
    congrArg (Option.getD · Value.null) (get?_extract_paths hentries hentry result)
  have htoken : resolve next (.text ("<<" ++ key ++ ">>")) = .ok kept := by
    rw [resolve, resolveText_token hkey hplain, hget]
  refine ⟨htoken, fun v location hat => ⟨fun w hw => ?_, fun e he => ?_⟩⟩
  · obtain ⟨x, hx, hwat⟩ := at?_of_resolve hw hat
    rw [htoken] at hx
    cases hx
    exact hwat
  · obtain ⟨leaf, hleaf, hfails⟩ := exists_leaf_of_resolve_error he
    refine ⟨leaf, hleaf, ?_, hfails⟩
    intro heq
    rw [heq, htoken] at hfails
    cases hfails

/-- A store with values from before. -/
def stale : Store :=
  .ofPairs [("id", .text "old"), ("token", .text "older")]

/-- A result with a text in it that looks like a placeholder and an increment. -/
def lookalikeResult : Value :=
  .list [.object [("data", .object [("id", .text "<<token>>increment(id)")])]]

/-- A value map with a path that leads to the text and one that leads nowhere. -/
def lookalikeEntries : List (String × Value) :=
  [("id", .text "data/id"), ("token", .text "data[0]/token")]

/-- A value with the placeholder of a key inside it. -/
def request : Value :=
  .object [("body", .list [.text "<<token>>", .text "<<id>>"])]

theorem resolve_extract_lookalike :
    Members.Distinct lookalikeEntries ∧
      ("id", .text "data/id") ∈ lookalikeEntries ∧ Nameable "id".toList ∧
      ¬ Increment.word <:+: "id".toList ∧
      ∃ w, resolve (stale.extract (.paths lookalikeEntries) lookalikeResult) request = .ok w ∧
        w.at? [.key "body", .position 1] = some (.text "<<token>>increment(id)") := by
  have hentries : Members.Distinct lookalikeEntries := by decide
  have hentry : ("id", .text "data/id") ∈ lookalikeEntries := List.mem_cons_self
  have hkey : Nameable "id".toList := by decide
  have hplain : ¬ Increment.word <:+: "id".toList := by decide
  refine ⟨hentries, hentry, hkey, hplain, ?_⟩
  have hresolves : resolve (stale.extract (.paths lookalikeEntries) lookalikeResult) request =
      .ok (.object [("body", .list [.null, .text "<<token>>increment(id)"])]) := by
    with_unfolding_all rfl
  have hread : ValueMap.entryValue? (ValueMap.sourceOf lookalikeResult) (.text "data/id") =
      some (.text "<<token>>increment(id)") := by
    with_unfolding_all rfl
  have hspec := resolve_extract stale hentries hentry hkey hplain lookalikeResult
  rw [hread] at hspec
  exact ⟨_, hresolves, (hspec.2 request [.key "body", .position 1] rfl).1 _ hresolves⟩

end Placeholder

end FlowRunner
