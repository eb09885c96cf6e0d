import FlowRunner.Flow.Placeholder
import FlowRunner.Proofs.DistinctKeys
import Mathlib.Data.List.Infix
import Mathlib.Tactic.MkIffOfInductiveProp

/-!
# Resolving texts and values

What the searches in a text find, said by prefixes, suffixes and infixes, and from that which texts
are one placeholder and nothing else (`wholeKey?_eq_some_iff`) and which hold no increment
(`Increment.reference?_eq_none`).

A value is resolved part by part. The lemmas at the end take a resolved list or object apart, or one
that does not resolve; a store is resolved entry by entry in place (`Store.resolved_eq_ok_iff`).
-/

namespace FlowRunner

namespace Except

variable {ε α β : Type} {x : Except ε α}

theorem bind_eq_ok_iff {f : α → Except ε β} {b : β} :
    x >>= f = .ok b ↔ ∃ a, x = .ok a ∧ f a = .ok b := by
  cases x <;> simp [bind, Except.bind]

theorem bind_eq_error_iff {f : α → Except ε β} {e : ε} :
    x >>= f = .error e ↔ x = .error e ∨ ∃ a, x = .ok a ∧ f a = .error e := by
  cases x <;> simp [bind, Except.bind]

theorem map_eq_ok_iff {f : α → β} {b : β} :
    x.map f = .ok b ↔ ∃ a, x = .ok a ∧ f a = b := by
  cases x <;> simp [Except.map]

theorem map_eq_error_iff {f : α → β} {e : ε} : x.map f = .error e ↔ x = .error e := by
  cases x <;> simp [Except.map]

theorem map_map {γ : Type} (f : α → β) (g : β → γ) :
    (x.map f).map g = x.map fun a => g (f a) := by
  cases x <;> rfl

theorem exists_eq_ok_of_isOk (h : x.isOk = true) : ∃ a, x = .ok a := by
  cases x with
  | error e => cases h
  | ok a => exact ⟨a, rfl⟩

end Except

namespace Text

theorem after?_eq_some_iff {start s rest : List Char} :
    after? start s = some rest ↔ s = start ++ rest := by
  induction start generalizing s with
  | nil => simp [after?]
  | cons p ps ih =>
    cases s with
    | nil => simp [after?]
    | cons c cs =>
      by_cases h : p = c
      · simp [after?, h, ih]
      · simp [after?, h, Ne.symm h]

theorem isSome_after?_iff {start s : List Char} : (after? start s).isSome = true ↔ start <+: s := by
  rw [Option.isSome_iff_exists]
  exact exists_congr fun rest => after?_eq_some_iff.trans eq_comm

theorem before?_eq_some_iff {finish s rest : List Char} :
    before? finish s = some rest ↔ s = rest ++ finish := by
  rw [before?, Option.map_eq_some_iff]
  constructor
  · rintro ⟨reversed, hafter, rfl⟩
    rw [after?_eq_some_iff] at hafter
    rw [← List.reverse_reverse s, hafter, List.reverse_append, List.reverse_reverse]
  · rintro rfl
    refine ⟨rest.reverse, ?_, List.reverse_reverse rest⟩
    rw [after?_eq_some_iff, List.reverse_append]

theorem occursIn_iff {part s : List Char} : occursIn part s = true ↔ part <:+: s := by
  induction s with
  | nil => simp [occursIn]
  | cons c rest ih =>
    rw [occursIn, Bool.or_eq_true, isSome_after?_iff, ih, List.infix_cons_iff]

end Text

/-! ## Texts that are one placeholder -/

/-- The placeholder of a key. -/
def Placeholder.token (key : List Char) : List Char :=
  ['<', '<'] ++ key ++ ['>', '>']

/-- A key that a placeholder can name when it stands alone. -/
@[mk_iff]
structure Placeholder.Nameable (key : List Char) : Prop where
  nonempty : key ≠ []
  unopened : ¬ ['<', '<'] <:+: key
  unclosed : ¬ ['>', '>'] <:+: key

instance (key : List Char) : Decidable (Placeholder.Nameable key) :=
  decidable_of_iff' _ (Placeholder.nameable_iff key)

theorem wholeKey?_eq_some_iff {s key : List Char} :
    wholeKey? s = some key ↔ s = Placeholder.token key ∧ Placeholder.Nameable key := by
  have hinner : ∀ inner, (Text.after? ['<', '<'] s).bind (Text.before? ['>', '>']) = some inner ↔
      s = Placeholder.token inner := by
    intro inner
    simp only [Option.bind_eq_some_iff, Text.after?_eq_some_iff, Text.before?_eq_some_iff,
      exists_eq_right]
    rw [Placeholder.token, List.append_assoc]
  unfold wholeKey?
  cases hcut : (Text.after? ['<', '<'] s).bind (Text.before? ['>', '>']) with
  | none =>
    have hne : s ≠ Placeholder.token key := by
      intro heq
      rw [← hinner, hcut] at heq
      cases heq
    simp [hne]
  | some inner =>
    have hs : s = Placeholder.token key ↔ inner = key := by
      rw [(hinner inner).mp hcut, Placeholder.token, Placeholder.token]
      simp
    have hplain : ¬(inner.isEmpty || Text.occursIn ['<', '<'] inner ||
        Text.occursIn ['>', '>'] inner) = true ↔ Placeholder.Nameable inner := by
      rw [Placeholder.nameable_iff, Bool.or_eq_true, Bool.or_eq_true, List.isEmpty_iff,
        Text.occursIn_iff, Text.occursIn_iff, not_or, not_or, and_assoc]
    rw [hs]
    dsimp only
    split
    · rename_i hbad
      constructor
      · intro h
        cases h
      · rintro ⟨rfl, hgood⟩
        exact absurd hbad (hplain.mpr hgood)
    · rename_i hgood
      rw [Option.some.injEq]
      constructor
      · rintro rfl
        exact ⟨rfl, hplain.mp hgood⟩
      · intro h
        exact h.1

/-! ## Texts without an increment -/

namespace Increment

theorem reference?_eq_none {s : List Char} (h : ¬ word <:+: s) : reference? s = none := by
  induction s with
  | nil => rfl
  | cons c rest ih =>
    rw [List.infix_cons_iff, not_or, ← Text.isSome_after?_iff] at h
    obtain ⟨hhere, hrest⟩ := h
    rw [reference?, Option.not_isSome_iff_eq_none.mp hhere, Option.bind_none]
    exact ih hrest

/-- An increment in a placeholder is one in its key. -/
theorem infix_token_iff {key : List Char} :
    word <:+: Placeholder.token key ↔ word <:+: key := by
  have hword : word = ['i', 'n', 'c', 'r', 'e', 'm', 'e', 'n', 't'] := rfl
  have htoken : Placeholder.token key = '<' :: '<' :: ((key ++ ['>']) ++ ['>']) := by
    simp [Placeholder.token]
  have hopen : ∀ s, ¬ word <+: '<' :: s := by
    intro s h
    rw [hword, List.cons_prefix_cons] at h
    exact absurd h.1 (by decide)
  have hclose : ∀ s, ¬ word <:+ s ++ ['>'] := by
    intro s h
    rw [← List.reverse_prefix, List.reverse_append, hword] at h
    exact absurd (List.cons_prefix_cons.mp h).1 (by decide)
  simp only [htoken, List.infix_cons_iff, List.infix_concat_iff, hopen, hclose, false_or]

end Increment

namespace Placeholder

theorem resolveText_eq_resolvePlain {s : String} (h : ¬ Increment.word <:+: s.toList)
    (store : Store) : resolveText store s = .ok (resolvePlain store s.toList) := by
  rw [resolveText, Increment.reference?_eq_none h]

/-! ## Lists and objects -/

variable {store : Store} {e : ResolveError}

theorem resolveItems_cons_eq_ok {v : Value} {rest results : List Value}
    (h : resolveItems store (v :: rest) = .ok results) :
    ∃ w ws, resolve store v = .ok w ∧ resolveItems store rest = .ok ws ∧ results = w :: ws := by
  obtain ⟨w, hw, h⟩ := Except.bind_eq_ok_iff.mp h
  obtain ⟨ws, hws, h⟩ := Except.bind_eq_ok_iff.mp h
  cases h
  exact ⟨w, ws, hw, hws, rfl⟩

theorem resolveItems_cons_eq_error {v : Value} {rest : List Value}
    (h : resolveItems store (v :: rest) = .error e) :
    resolve store v = .error e ∨ resolveItems store rest = .error e := by
  rcases Except.bind_eq_error_iff.mp h with hv | ⟨w, -, h⟩
  · exact .inl hv
  rcases Except.bind_eq_error_iff.mp h with hrest | ⟨ws, -, h⟩
  · exact .inr hrest
  · cases h

theorem resolveMembers_cons_eq_ok {key : String} {v : Value} {rest results : List (String × Value)}
    (h : resolveMembers store ((key, v) :: rest) = .ok results) :
    ∃ w pairs, resolve store v = .ok w ∧ resolveMembers store rest = .ok pairs ∧
      results = (key, w) :: pairs := by
  obtain ⟨w, hw, h⟩ := Except.bind_eq_ok_iff.mp h
  obtain ⟨pairs, hpairs, h⟩ := Except.bind_eq_ok_iff.mp h
  cases h
  exact ⟨w, pairs, hw, hpairs, rfl⟩

theorem resolveMembers_cons_eq_error {key : String} {v : Value} {rest : List (String × Value)}
    (h : resolveMembers store ((key, v) :: rest) = .error e) :
    resolve store v = .error e ∨ resolveMembers store rest = .error e := by
  rcases Except.bind_eq_error_iff.mp h with hv | ⟨w, -, h⟩
  · exact .inl hv
  rcases Except.bind_eq_error_iff.mp h with hrest | ⟨pairs, -, h⟩
  · exact .inr hrest
  · cases h

/-- Resolving keeps the keys, and what stands under a key is resolved on its own. -/
theorem get?_resolveMembers_cases {members results : List (String × Value)}
    (h : resolveMembers store members = .ok results) (key : String) :
    (Members.get? key members = none ∧ Members.get? key results = none) ∨
      ∃ v w, Members.get? key members = some v ∧ Members.get? key results = some w ∧
        resolve store v = .ok w := by
  induction members generalizing results with
  | nil =>
    cases h
    exact .inl ⟨rfl, rfl⟩
  | cons member rest ih =>
    obtain ⟨k, v⟩ := member
    obtain ⟨w, pairs, hw, hpairs, rfl⟩ := resolveMembers_cons_eq_ok h
    by_cases hk : k = key
    · rw [Members.get?, Members.get?, if_pos hk, if_pos hk]
      exact .inr ⟨v, w, rfl, rfl, hw⟩
    · rw [Members.get?, Members.get?, if_neg hk, if_neg hk]
      exact ih hpairs

theorem get?_of_resolveMembers {members results : List (String × Value)}
    (h : resolveMembers store members = .ok results) {key : String} {v : Value}
    (hget : Members.get? key members = some v) :
    ∃ w, resolve store v = .ok w ∧ Members.get? key results = some w := by
  rcases get?_resolveMembers_cases h key with ⟨hnone, -⟩ | ⟨u, w, hu, hw, hresolve⟩
  · cases hget.symm.trans hnone
  · cases hget.symm.trans hu
    exact ⟨w, hresolve, hw⟩

theorem keys_resolveMembers {members resolved : List (String × Value)}
    (h : resolveMembers store members = .ok resolved) :
    Members.keys resolved = Members.keys members := by
  induction members generalizing resolved with
  | nil =>
    cases h
    rfl
  | cons member rest ih =>
    obtain ⟨key, v⟩ := member
    obtain ⟨w, pairs, -, hpairs, rfl⟩ := resolveMembers_cons_eq_ok h
    exact congrArg (key :: ·) (ih hpairs)

theorem distinct_of_resolveMembers {members results : List (String × Value)}
    (hmembers : Members.Distinct members) (h : resolveMembers store members = .ok results) :
    Members.Distinct results := by
  rw [Members.Distinct, keys_resolveMembers h]
  exact hmembers

end Placeholder

/-- The entries of a store are resolved in their places. -/
theorem Store.resolved_eq_ok_iff {store initial : Store} :
    store.resolved = .ok initial ↔
      Placeholder.resolveMembers store store.entries = .ok initial.entries := by
  rw [resolved, Except.map_eq_ok_iff]
  constructor
  · rintro ⟨entries, hentries, rfl⟩
    have hdistinct := Placeholder.distinct_of_resolveMembers store.distinct hentries
    exact hentries.trans (congrArg Except.ok (Members.ofPairs_of_distinct hdistinct).symm)
  · intro hentries
    exact ⟨_, hentries, initial.ofPairs_entries⟩

theorem Store.keys_resolved {store initial : Store} (h : store.resolved = .ok initial) :
    initial.keys = store.keys :=
  Placeholder.keys_resolveMembers (resolved_eq_ok_iff.mp h)

end FlowRunner
