import FlowRunner.Proofs.HandOver
import FlowRunner.Proofs.PlainTexts

/-!
# What a value refers to

Resolving a value looks up some keys of the store and nothing else. `Placeholder.references` are the
keys that a text asks for, one for an increment and otherwise those of its placeholders, and each of
them stands in the text.

* `Value.induction`: a property of all values, from their leaves to lists and objects of them.
* `Placeholder.resolve_congr`: stores that agree on the keys asked for resolve a value alike.
* `Placeholder.resolve_of_settled`: a value that asks for no key is left as it is.
* `Placeholder.sameForm_of_resolve`: only texts are replaced.
-/

namespace FlowRunner

/-! ## Values and their texts -/

namespace Value

/-- The induction over values, with lists and objects entered at once. -/
@[elab_as_elim]
theorem induction {P : Value → Prop} (leaf : ∀ v, v.isLeaf = true → P v)
    (list : ∀ items, (∀ v ∈ items, P v) → P (.list items))
    (object : ∀ members, (∀ member ∈ members, P member.2) → P (.object members)) (v : Value) :
    P v := by
  -- Items and members have motives of their own, which say that `P` holds of all of them.
  refine @Value.rec P (fun items => ∀ v ∈ items, P v) (fun members => ∀ member ∈ members, P member.2)
    (fun member => P member.2) (leaf .null rfl) (fun b => leaf (.bool b) rfl)
    (fun n => leaf (.number n) rfl) (fun s => leaf (.text s) rfl) list object ?_ ?_ ?_ ?_ ?_ v
  · exact List.forall_mem_nil _
  · exact fun _ _ hfirst hrest => List.forall_mem_cons.mpr ⟨hfirst, hrest⟩
  · exact List.forall_mem_nil _
  · exact fun _ _ hfirst hrest => List.forall_mem_cons.mpr ⟨hfirst, hrest⟩
  · exact fun _ _ hvalue => hvalue

/-- The texts in a value, in the order in which it is written. -/
def texts (v : Value) : List String :=
  v.leaves.filterMap fun leaf => leaf.value.asText?

theorem texts_list (items : List Value) : (list items).texts = items.flatMap texts := by
  have hitems : ∀ index, (itemLeaves index items).filterMap (fun leaf => leaf.value.asText?) =
      items.flatMap texts := by
    induction items with
    | nil => exact fun _ => rfl
    | cons v rest ih =>
      intro index
      rw [itemLeaves, List.filterMap_append, List.filterMap_map, ih, List.flatMap_cons]
      rfl
  exact hitems 0

theorem texts_object (members : List (String × Value)) :
    (object members).texts = members.flatMap fun member => member.2.texts := by
  have hmembers : (memberLeaves members).filterMap (fun leaf => leaf.value.asText?) =
      members.flatMap fun member => member.2.texts := by
    induction members with
    | nil => rfl
    | cons member rest ih =>
      rw [memberLeaves, List.filterMap_append, List.filterMap_map, ih, List.flatMap_cons]
      rfl
  exact hmembers

theorem mem_texts_list {items : List Value} {s : String} :
    s ∈ (list items).texts ↔ ∃ v ∈ items, s ∈ v.texts := by
  rw [texts_list, List.mem_flatMap]

theorem mem_texts_object {members : List (String × Value)} {s : String} :
    s ∈ (object members).texts ↔ ∃ member ∈ members, s ∈ member.2.texts := by
  rw [texts_object, List.mem_flatMap]

/-- Two values have the same form, apart from texts in the first one: lists are equally long and
objects have the same keys in the same order, at any depth, and other scalars are the same. -/
inductive SameForm : Value → Value → Prop
  | text (s : String) (w : Value) : SameForm (.text s) w
  | leaf {v : Value} (hleaf : v.isLeaf = true) : SameForm v v
  | list {items results : List Value} (hitems : List.Forall₂ SameForm items results) :
    SameForm (.list items) (.list results)
  | object {members results : List (String × Value)}
    (hkeys : Members.keys results = Members.keys members)
    (hvalues : List.Forall₂ SameForm (members.map Prod.snd) (results.map Prod.snd)) :
    SameForm (.object members) (.object results)

end Value

/-! ## Keys that a text asks for -/

namespace Placeholder

/-- The keys of the placeholders in a text, from left to right. -/
def keysIn : List Char → List (List Char)
  | [] => []
  | '<' :: '<' :: rest =>
    match _h : keyAfter rest with
    | some (key, after) => key :: keysIn after
    | none => keysIn ('<' :: rest)
  | _ :: rest => keysIn rest
termination_by s => s.length
decreasing_by
  · have := keyAfter_length _h
    simp only [List.length_cons]
    omega
  · simp
  · simp

/-- The keys that are looked up when a text is resolved. -/
def references (s : String) : List String :=
  match Increment.reference? s.toList with
  | some reference => [Increment.keyOf reference]
  | none =>
    match wholeKey? s.toList with
    | some key => [String.ofList key]
    | none => (keysIn s.toList).map String.ofList

theorem eq_append_of_closing {s key rest : List Char} (h : closing s = some (key, rest)) :
    s = key ++ '>' :: '>' :: rest := by
  fun_induction closing s generalizing key rest with
  | case1 more =>
    cases h
    rfl
  | case2 => cases h
  | case3 => cases h
  | case4 c more _ _ ih =>
    obtain ⟨⟨before, after⟩, hclosing, heq⟩ := Option.map_eq_some_iff.mp h
    cases heq
    rw [ih hclosing, List.cons_append]

theorem eq_append_of_keyAfter {s key rest : List Char} (h : keyAfter s = some (key, rest)) :
    s = key ++ '>' :: '>' :: rest := by
  cases s with
  | nil => cases h
  | cons c more =>
    rw [keyAfter] at h
    split at h
    · cases h
    · obtain ⟨⟨before, after⟩, hclosing, heq⟩ := Option.map_eq_some_iff.mp h
      cases heq
      rw [eq_append_of_closing hclosing, List.cons_append]

theorem infix_of_mem_keysIn {s key : List Char} (h : key ∈ keysIn s) : key <:+: s := by
  fun_induction keysIn s with
  | case1 => cases h
  | case2 rest first after hkey ih =>
    have hrest := eq_append_of_keyAfter hkey
    rcases List.mem_cons.mp h with rfl | hmem
    · exact ⟨['<', '<'], '>' :: '>' :: after, by simp [hrest]⟩
    · refine (ih hmem).trans ⟨'<' :: '<' :: first ++ ['>', '>'], [], ?_⟩
      simp [hrest]
  | case3 rest hkey ih => exact List.infix_cons (ih h)
  | case4 c rest hopen ih => exact List.infix_cons (ih h)

/-- Substitution looks up the keys of the placeholders and no others. -/
theorem substitute_congr {store other : Store} {s : List Char}
    (h : ∀ key ∈ keysIn s, store.get? (String.ofList key) = other.get? (String.ofList key)) :
    substitute store s = substitute other s := by
  fun_induction keysIn s with
  | case1 => rw [substitute, substitute]
  | case2 rest first after hkey ih =>
    obtain ⟨hfirst, hrest⟩ := List.forall_mem_cons.mp h
    rw [substitute, substitute, hkey]
    dsimp only
    rw [hfirst, ih hrest]
  | case3 rest hkey ih =>
    rw [substitute, substitute, hkey]
    dsimp only
    rw [ih h]
  | case4 c rest hopen ih =>
    have hcons : ∀ tail, c :: rest ≠ '<' :: '<' :: tail := fun tail heq =>
      hopen tail (List.cons.inj heq).1 (List.cons.inj heq).2
    rw [substitute_cons hcons, substitute_cons hcons, ih h]

/-- A text without placeholders is left as it is. -/
theorem substitute_of_keysIn {s : List Char} (h : keysIn s = []) (store : Store) :
    substitute store s = s := by
  fun_induction keysIn s with
  | case1 => rw [substitute]
  | case2 rest first after hkey ih => cases h
  | case3 rest hkey ih =>
    rw [substitute, hkey]
    dsimp only
    rw [ih h]
  | case4 c rest hopen ih =>
    have hcons : ∀ tail, c :: rest ≠ '<' :: '<' :: tail := fun tail heq =>
      hopen tail (List.cons.inj heq).1 (List.cons.inj heq).2
    rw [substitute_cons hcons, ih h]

theorem keysIn_of_unopened {s : List Char} (h : ¬ ['<', '<'] <:+: s) : keysIn s = [] := by
  fun_induction keysIn s with
  | case1 => rfl
  | case2 rest first after hkey ih => exact absurd ⟨[], rest, rfl⟩ h
  | case3 rest hkey ih => exact absurd ⟨[], rest, rfl⟩ h
  | case4 c rest hopen ih => exact ih fun hin => h (List.infix_cons hin)

end Placeholder

namespace Increment

theorem infix_of_content? {s inside : List Char} (h : content? s = some inside) : inside <:+: s := by
  unfold content? at h
  split at h
  · rename_i c rest hrest
    have hsuffix : rest <:+: s := by
      refine List.IsSuffix.isInfix ((List.suffix_cons c rest).trans ?_)
      exact hrest ▸ List.dropWhile_suffix _
    dsimp only at h
    split at h
    · split at h
      · cases h
      · cases h
        exact (List.takeWhile_prefix _).isInfix.trans hsuffix
    · cases h
  · cases h

theorem trim_isInfix (s : List Char) : Text.trim s <:+: s := by
  have hend : ∀ t : List Char, Text.trimEnd t <+: t := by
    intro t
    rw [← List.reverse_suffix, Text.trimEnd, List.reverse_reverse]
    exact List.dropWhile_suffix _
  exact (hend _).isInfix.trans (List.dropWhile_suffix _).isInfix

theorem infix_of_reference? {s reference : List Char} (h : reference? s = some reference) :
    reference <:+: s := by
  induction s with
  | nil => cases h
  | cons c rest ih =>
    rw [reference?] at h
    split at h
    · rename_i inside hinside
      cases h
      obtain ⟨after, hafter, hcontent⟩ := Option.bind_eq_some_iff.mp hinside
      rw [Text.after?_eq_some_iff] at hafter
      rw [hafter]
      exact (trim_isInfix inside).trans
        ((infix_of_content? hcontent).trans (List.suffix_append _ _).isInfix)
    · exact List.infix_cons (ih h)

/-- The key of an increment stands in its reference. -/
theorem keyOf_isInfix (reference : List Char) : (keyOf reference).toList <:+: reference := by
  rw [keyOf, String.toList_ofList]
  cases hwhole : wholeKey? reference with
  | none => exact List.infix_rfl
  | some key =>
    obtain ⟨hreference, -⟩ := wholeKey?_eq_some_iff.mp hwhole
    rw [hreference]
    exact ⟨['<', '<'], ['>', '>'], rfl⟩

/-- An increment looks up its own key and no other. -/
theorem next_congr {store other : Store} {key : String} (h : store.get? key = other.get? key) :
    next store key = next other key := by
  simp only [next, base?, h]

end Increment

namespace Placeholder

/-- Every key that a text asks for stands in the text. -/
theorem infix_of_mem_references {s key : String} (h : key ∈ references s) :
    key.toList <:+: s.toList := by
  unfold references at h
  split at h
  · rename_i reference hreference
    rw [List.mem_singleton.mp h]
    exact (Increment.keyOf_isInfix reference).trans (Increment.infix_of_reference? hreference)
  · split at h
    · rename_i inner hwhole
      obtain ⟨hs, -⟩ := wholeKey?_eq_some_iff.mp hwhole
      rw [List.mem_singleton.mp h, hs, String.toList_ofList]
      exact ⟨['<', '<'], ['>', '>'], rfl⟩
    · obtain ⟨inner, hinner, rfl⟩ := List.mem_map.mp h
      rw [String.toList_ofList]
      exact infix_of_mem_keysIn hinner

/-- Stores that agree on the keys a text asks for give it the same meaning, or the same error. -/
theorem resolveText_congr {store other : Store} {s : String}
    (h : ∀ key ∈ references s, store.get? key = other.get? key) :
    resolveText store s = resolveText other s := by
  unfold references at h
  unfold resolveText
  cases hreference : Increment.reference? s.toList with
  | some reference =>
    rw [hreference] at h
    dsimp only
    rw [Increment.next_congr (h _ (List.mem_singleton.mpr rfl))]
  | none =>
    rw [hreference] at h
    dsimp only
    unfold resolvePlain
    cases hwhole : wholeKey? s.toList with
    | some key =>
      rw [hwhole] at h
      dsimp only
      rw [h _ (List.mem_singleton.mpr rfl)]
    | none =>
      rw [hwhole] at h
      dsimp only
      rw [substitute_congr fun key hkey => h _ (List.mem_map_of_mem hkey)]

/-- A text that asks for no key stands for itself. -/
theorem resolveText_of_references {s : String} (h : references s = []) (store : Store) :
    resolveText store s = .ok (.text s) := by
  unfold references at h
  unfold resolveText
  cases hreference : Increment.reference? s.toList with
  | some reference =>
    rw [hreference] at h
    cases h
  | none =>
    rw [hreference] at h
    dsimp only
    unfold resolvePlain
    cases hwhole : wholeKey? s.toList with
    | some key =>
      rw [hwhole] at h
      cases h
    | none =>
      rw [hwhole] at h
      dsimp only
      rw [substitute_of_keysIn (List.map_eq_nil_iff.mp h), String.ofList_toList]

theorem references_of_plain {s : String} (hopen : ¬ ['<', '<'] <:+: s.toList)
    (hword : ¬ Increment.word <:+: s.toList) : references s = [] := by
  rw [references, Increment.reference?_eq_none hword]
  dsimp only
  rw [wholeKey?_of_unopened hopen]
  dsimp only
  rw [keysIn_of_unopened hopen, List.map_nil]

/-! ## Lists and objects -/

section

variable {store other : Store}

theorem resolveItems_congr {items : List Value}
    (h : ∀ v ∈ items, resolve store v = resolve other v) :
    resolveItems store items = resolveItems other items := by
  induction items with
  | nil => rfl
  | cons v rest ih =>
    obtain ⟨hv, hrest⟩ := List.forall_mem_cons.mp h
    rw [resolveItems, resolveItems, hv, ih hrest]

theorem resolveMembers_congr {members : List (String × Value)}
    (h : ∀ member ∈ members, resolve store member.2 = resolve other member.2) :
    resolveMembers store members = resolveMembers other members := by
  induction members with
  | nil => rfl
  | cons member rest ih =>
    obtain ⟨hmember, hrest⟩ := List.forall_mem_cons.mp h
    rw [resolveMembers, resolveMembers, hmember, ih hrest]

theorem resolveItems_of_fixed {items : List Value} (h : ∀ v ∈ items, resolve store v = .ok v) :
    resolveItems store items = .ok items := by
  induction items with
  | nil => rfl
  | cons v rest ih =>
    obtain ⟨hv, hrest⟩ := List.forall_mem_cons.mp h
    rw [resolveItems, hv, ih hrest]
    rfl

theorem resolveMembers_of_fixed {members : List (String × Value)}
    (h : ∀ member ∈ members, resolve store member.2 = .ok member.2) :
    resolveMembers store members = .ok members := by
  induction members with
  | nil => rfl
  | cons member rest ih =>
    obtain ⟨hmember, hrest⟩ := List.forall_mem_cons.mp h
    rw [resolveMembers, hmember, ih hrest]
    rfl

theorem forall₂_of_resolveItems {items results : List Value}
    (h : resolveItems store items = .ok results) :
    List.Forall₂ (fun v w => resolve store v = .ok w) items results := by
  induction items generalizing results with
  | nil =>
    cases h
    exact .nil
  | cons v rest ih =>
    obtain ⟨w, ws, hw, hws, rfl⟩ := resolveItems_cons_eq_ok h
    exact .cons hw (ih hws)

theorem forall₂_of_resolveMembers {members results : List (String × Value)}
    (h : resolveMembers store members = .ok results) :
    List.Forall₂ (fun v w => resolve store v = .ok w) (members.map Prod.snd)
      (results.map Prod.snd) := by
  induction members generalizing results with
  | nil =>
    cases h
    exact .nil
  | cons member rest ih =>
    obtain ⟨w, pairs, hw, hpairs, rfl⟩ := resolveMembers_cons_eq_ok h
    exact .cons hw (ih hpairs)

/-- Every result comes from something that stands at its place. -/
theorem exists_of_forall₂ {R : Value → Value → Prop} {items results : List Value}
    (h : List.Forall₂ R items results) {w : Value} (hw : w ∈ results) : ∃ v ∈ items, R v w := by
  induction h with
  | nil => cases hw
  | cons hfirst hrest ih =>
    rcases List.mem_cons.mp hw with rfl | hw
    · exact ⟨_, List.mem_cons_self, hfirst⟩
    · obtain ⟨v, hv, hvw⟩ := ih hw
      exact ⟨v, List.mem_cons_of_mem _ hv, hvw⟩

/-! ## Values -/

/-- Stores that agree on the keys that the texts of a value ask for resolve it alike. -/
theorem resolve_congr {v : Value}
    (h : ∀ s ∈ v.texts, ∀ key ∈ references s, store.get? key = other.get? key) :
    resolve store v = resolve other v := by
  induction v using Value.induction with
  | leaf v hleaf =>
    cases v with
    | text s => exact resolveText_congr (h s (List.mem_singleton.mpr rfl))
    | list items => cases hleaf
    | object members => cases hleaf
    | _ => rfl
  | list items ih =>
    rw [resolve, resolve, resolveItems_congr]
    intro v hv
    exact ih v hv fun s hs => h s (Value.mem_texts_list.mpr ⟨v, hv, hs⟩)
  | object members ih =>
    rw [resolve, resolve, resolveMembers_congr]
    intro member hmember
    exact ih member hmember fun s hs => h s (Value.mem_texts_object.mpr ⟨member, hmember, hs⟩)

/-- A value whose texts ask for no key is left as it is. -/
theorem resolve_of_settled {v : Value} (h : ∀ s ∈ v.texts, references s = []) (store : Store) :
    resolve store v = .ok v := by
  induction v using Value.induction with
  | leaf v hleaf =>
    cases v with
    | text s => exact resolveText_of_references (h s (List.mem_singleton.mpr rfl)) store
    | list items => cases hleaf
    | object members => cases hleaf
    | _ => rfl
  | list items ih =>
    rw [resolve, resolveItems_of_fixed]
    · rfl
    · intro v hv
      exact ih v hv fun s hs => h s (Value.mem_texts_list.mpr ⟨v, hv, hs⟩)
  | object members ih =>
    rw [resolve, resolveMembers_of_fixed]
    · rfl
    · intro member hmember
      exact ih member hmember fun s hs => h s (Value.mem_texts_object.mpr ⟨member, hmember, hs⟩)

/-- Resolving a value replaces texts and nothing else. -/
theorem sameForm_of_resolve {v w : Value} (h : resolve store v = .ok w) : v.SameForm w := by
  induction v using Value.induction generalizing w with
  | leaf v hleaf =>
    cases v with
    | text s => exact .text s w
    | list items => cases hleaf
    | object members => cases hleaf
    | _ =>
      cases h
      exact .leaf rfl
  | list items ih =>
    rw [resolve, Except.map_eq_ok_iff] at h
    obtain ⟨results, hresults, rfl⟩ := h
    have hitems := (List.forall₂_and_left _ _).mpr ⟨ih, forall₂_of_resolveItems hresults⟩
    exact .list (hitems.imp fun v w hv => hv.1 hv.2)
  | object members ih =>
    rw [resolve, Except.map_eq_ok_iff] at h
    obtain ⟨results, hresults, rfl⟩ := h
    have hform : ∀ v ∈ members.map Prod.snd, ∀ w, resolve store v = .ok w → v.SameForm w := by
      intro v hv w hw
      obtain ⟨member, hmember, rfl⟩ := List.mem_map.mp hv
      exact ih member hmember hw
    have hvalues := (List.forall₂_and_left _ _).mpr ⟨hform, forall₂_of_resolveMembers hresults⟩
    exact .object (keys_resolveMembers hresults) (hvalues.imp fun v w hv => hv.1 w hv.2)

/-- The texts of a resolved value come from what its texts stand for. -/
theorem exists_text_of_resolve {v w : Value} (h : resolve store v = .ok w) {t : String}
    (ht : t ∈ w.texts) : ∃ s ∈ v.texts, ∃ u, resolveText store s = .ok u ∧ t ∈ u.texts := by
  induction v using Value.induction generalizing w with
  | leaf v hleaf =>
    cases v with
    | text s => exact ⟨s, List.mem_singleton.mpr rfl, w, h, ht⟩
    | list items => cases hleaf
    | object members => cases hleaf
    | _ =>
      cases h
      cases ht
  | list items ih =>
    rw [resolve, Except.map_eq_ok_iff] at h
    obtain ⟨results, hresults, rfl⟩ := h
    obtain ⟨x, hx, hxt⟩ := Value.mem_texts_list.mp ht
    obtain ⟨v, hv, hresolve⟩ := exists_of_forall₂ (forall₂_of_resolveItems hresults) hx
    obtain ⟨s, hs, hsource⟩ := ih v hv hresolve hxt
    exact ⟨s, Value.mem_texts_list.mpr ⟨v, hv, hs⟩, hsource⟩
  | object members ih =>
    rw [resolve, Except.map_eq_ok_iff] at h
    obtain ⟨results, hresults, rfl⟩ := h
    obtain ⟨pair, hpair, hpt⟩ := Value.mem_texts_object.mp ht
    obtain ⟨v, hv, hresolve⟩ :=
      exists_of_forall₂ (forall₂_of_resolveMembers hresults) (List.mem_map_of_mem hpair)
    obtain ⟨member, hmember, rfl⟩ := List.mem_map.mp hv
    obtain ⟨s, hs, hsource⟩ := ih member hmember hresolve hpt
    exact ⟨s, Value.mem_texts_object.mpr ⟨member, hmember, hs⟩, hsource⟩

end

/-- What a value stands for depends on the store only through keys that stand in its texts, and not
at all when no text has an opening or the word for an increment in it; and only texts are replaced.
-/
theorem resolve_spec (v : Value) (store : Store) :
    (∀ other : Store, (∀ s ∈ v.texts, ∀ key : String, key.toList <:+: s.toList →
        store.get? key = other.get? key) → resolve store v = resolve other v) ∧
    ((∀ s ∈ v.texts, ¬ ['<', '<'] <:+: s.toList ∧ ¬ Increment.word <:+: s.toList) →
      resolve store v = .ok v) ∧
    ∀ w, resolve store v = .ok w → v.SameForm w := by
  refine ⟨fun other h => ?_, fun h => ?_, fun w => sameForm_of_resolve⟩
  · exact resolve_congr fun s hs key hkey => h s hs key (infix_of_mem_references hkey)
  · exact resolve_of_settled (fun s hs => references_of_plain (h s hs).1 (h s hs).2) store

/-- A value with an increment, with placeholders that stand alone and inside other text, and with one
as a key. -/
def letter : Value :=
  .object [("<<id>>", .list [.text "<<id>>", .text "no. increment(<<count>>)", .null]),
    ("to", .text "Dear <<name>>,")]

/-- A value without references. -/
def envelope : Value :=
  .object [("<<id>>", .text "increase <id>"), ("size", .bool true)]

/-- Parameters with a secret. -/
def guarded : Store :=
  .ofPairs [("id", .text "<<name>>"), ("count", .text "41"), ("name", .text "increment(id)"),
    ("secret", .text "a")]

/-- The same parameters with another secret, before the others. -/
def rekeyed : Store :=
  .ofPairs [("secret", .null), ("id", .text "<<name>>"), ("count", .text "41"),
    ("name", .text "increment(id)")]

theorem resolve_spec_letter :
    (∀ s ∈ letter.texts, ∀ key : String, key.toList <:+: s.toList →
        guarded.get? key = rekeyed.get? key) ∧
      resolve guarded letter = resolve rekeyed letter ∧
      (∀ s ∈ envelope.texts, ¬ ['<', '<'] <:+: s.toList ∧ ¬ Increment.word <:+: s.toList) ∧
      resolve guarded envelope = .ok envelope ∧
      ∃ w, resolve guarded letter = .ok w ∧ letter.SameForm w := by
  have hagree : ∀ s ∈ letter.texts, ∀ key : String, key.toList <:+: s.toList →
      guarded.get? key = rekeyed.get? key := by
    intro s hs key hkey
    have hsecret : ∀ s ∈ letter.texts, ¬ "secret".toList <:+: s.toList := by decide
    have hne : "secret" ≠ key := by
      rintro rfl
      exact hsecret s hs hkey
    have hguarded : guarded.entries = [("id", .text "<<name>>"), ("count", .text "41"),
        ("name", .text "increment(id)"), ("secret", .text "a")] := rfl
    have hrekeyed : rekeyed.entries = [("secret", .null), ("id", .text "<<name>>"),
        ("count", .text "41"), ("name", .text "increment(id)")] := rfl
    simp [Store.get?, hguarded, hrekeyed, Members.get?, hne]
  have hplain : ∀ s ∈ envelope.texts,
      ¬ ['<', '<'] <:+: s.toList ∧ ¬ Increment.word <:+: s.toList := by decide
  have hresolves : (resolve guarded letter).isOk = true := by decide +kernel
  obtain ⟨hlocal, -, hform⟩ := resolve_spec letter guarded
  obtain ⟨w, hw⟩ := Except.exists_eq_ok_of_isOk hresolves
  exact ⟨hagree, hlocal rekeyed hagree, hplain,
    (resolve_spec envelope guarded).2.1 hplain, w, hw, hform w hw⟩

end Placeholder

end FlowRunner
