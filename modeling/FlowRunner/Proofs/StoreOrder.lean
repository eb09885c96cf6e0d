import FlowRunner.Proofs.InitialStores

/-!
# Stores in another order

The values of a store are resolved one after another, each against the store as it was before. What
an entry stands for does not depend on where it is written, and the order of the entries decides
only in which order the result has them (`Store.resolved_perm`).
-/

namespace FlowRunner

namespace Placeholder

/-- Members can be resolved when each of their values can. -/
theorem exists_resolveMembers_iff {store : Store} {members : List (String × Value)} :
    (∃ results, resolveMembers store members = .ok results) ↔
      ∀ member ∈ members, ∃ w, resolve store member.2 = .ok w := by
  induction members with
  | nil => exact ⟨fun _ => List.forall_mem_nil _, fun _ => ⟨[], rfl⟩⟩
  | cons member rest ih =>
    obtain ⟨key, v⟩ := member
    rw [List.forall_mem_cons, ← ih]
    constructor
    · rintro ⟨results, hresults⟩
      obtain ⟨w, pairs, hw, hpairs, -⟩ := resolveMembers_cons_eq_ok hresults
      exact ⟨⟨w, hw⟩, pairs, hpairs⟩
    · rintro ⟨⟨w, hw⟩, pairs, hpairs⟩
      refine ⟨(key, w) :: pairs, ?_⟩
      rw [resolveMembers, hw, hpairs]
      rfl

end Placeholder

namespace Store

variable {store other result : Store}

/-- What a store is resolved to: the keys stay in their order, and under each key stands what its
value stands for in the store as it was. -/
structure ResolvesTo (store result : Store) : Prop where
  keys : result.keys = store.keys
  held : ∀ key v, store.get? key = some v →
    ∃ w, Placeholder.resolve store v = .ok w ∧ result.get? key = some w

theorem resolvesTo_of_resolved (h : store.resolved = .ok result) : store.ResolvesTo result where
  keys := keys_resolved h
  held := by
    intro key v hv
    exact Placeholder.get?_of_resolveMembers (resolved_eq_ok_iff.mp h) hv

theorem ResolvesTo.get?_eq (h : store.ResolvesTo result) (key : String) :
    result.get? key =
      (store.get? key).bind fun v => (Placeholder.resolve store v).toOption := by
  cases hv : store.get? key with
  | none =>
    have hkey : key ∉ result.keys := by
      rw [h.keys]
      exact Members.get?_eq_none_iff.mp hv
    exact Members.get?_eq_none_iff.mpr hkey
  | some v =>
    obtain ⟨w, hw, hheld⟩ := h.held key v hv
    rw [hheld, Option.bind_some, hw]
    rfl

theorem exists_resolved_iff :
    (∃ result, store.resolved = .ok result) ↔
      ∀ key v, store.get? key = some v → ∃ w, Placeholder.resolve store v = .ok w := by
  have hentries : (∃ result, store.resolved = .ok result) ↔
      ∃ entries, Placeholder.resolveMembers store store.entries = .ok entries := by
    unfold Store.resolved
    constructor
    · rintro ⟨result, hresult⟩
      obtain ⟨entries, h, -⟩ := Except.map_eq_ok_iff.mp hresult
      exact ⟨entries, h⟩
    · rintro ⟨entries, h⟩
      exact ⟨_, Except.map_eq_ok_iff.mpr ⟨entries, h, rfl⟩⟩
  rw [hentries, Placeholder.exists_resolveMembers_iff]
  constructor
  · intro h key v hv
    exact h (key, v) (Members.mem_of_get?_eq_some hv)
  · rintro h ⟨key, v⟩ hmember
    exact h key v ((Members.get?_eq_some_iff store.distinct).mpr hmember)

theorem exists_unresolved {e : ResolveError} (h : store.resolved = .error e) :
    ∃ key v, store.get? key = some v ∧ ∀ w, Placeholder.resolve store v ≠ .ok w := by
  have hnone : ¬ ∃ result, store.resolved = .ok result := by
    rintro ⟨result, hresult⟩
    cases h.symm.trans hresult
  rw [exists_resolved_iff] at hnone
  push Not at hnone
  exact hnone

/-- A value stands for the same in a store with the same entries in another order. -/
theorem resolve_perm (hperm : store.entries.Perm other.entries) (v : Value) :
    Placeholder.resolve other v = Placeholder.resolve store v :=
  Placeholder.resolve_congr fun _ _ key _ => Members.get?_perm store.distinct hperm key

/-- Stores with the same entries in another order are both resolved, each in its own order and with
the same values, or neither is, because some value cannot be resolved in either of them. -/
theorem resolved_perm (hperm : store.entries.Perm other.entries) :
    (∃ result reordered, store.resolved = .ok result ∧ other.resolved = .ok reordered ∧
      store.ResolvesTo result ∧ other.ResolvesTo reordered ∧
      ∀ key, reordered.get? key = result.get? key) ∨
    ∃ e e', store.resolved = .error e ∧ other.resolved = .error e' ∧
      ∃ key v, store.get? key = some v ∧ other.get? key = some v ∧
        ∀ w, Placeholder.resolve store v ≠ .ok w ∧ Placeholder.resolve other v ≠ .ok w := by
  have hget : ∀ key, other.get? key = store.get? key := Members.get?_perm store.distinct hperm
  have hresolve := resolve_perm hperm
  have hboth : (∃ reordered, other.resolved = .ok reordered) ↔
      ∃ result, store.resolved = .ok result := by
    simp only [exists_resolved_iff, hget, hresolve]
  cases hresult : store.resolved with
  | ok result =>
    obtain ⟨reordered, hreordered⟩ := hboth.mpr ⟨result, hresult⟩
    have hto := resolvesTo_of_resolved hresult
    have hto' := resolvesTo_of_resolved hreordered
    refine .inl ⟨result, reordered, rfl, hreordered, hto, hto', fun key => ?_⟩
    simp only [hto.get?_eq, hto'.get?_eq, hget, hresolve]
  | error e =>
    obtain ⟨key, v, hv, hfails⟩ := exists_unresolved hresult
    cases hreordered : other.resolved with
    | ok reordered =>
      obtain ⟨result, hok⟩ := hboth.mp ⟨reordered, hreordered⟩
      cases hresult.symm.trans hok
    | error e' =>
      refine .inr ⟨e, e', rfl, rfl, key, v, hv, (hget key).trans hv, fun w => ⟨hfails w, ?_⟩⟩
      rw [hresolve]
      exact hfails w

/-- A chain of links written from its end. -/
def relayBackwards : Store :=
  .ofPairs relay.entries.reverse

theorem resolved_perm_relay :
    relay.entries.Perm relayBackwards.entries ∧
      ∃ result reordered, relay.resolved = .ok result ∧ relayBackwards.resolved = .ok reordered ∧
        result.keys = ["url", "host", "region"] ∧ reordered.keys = ["region", "host", "url"] ∧
        reordered.textAt? "url" = some "<<region>>.example/api" ∧
        reordered.textAt? "url" = result.textAt? "url" := by
  have hentries : relayBackwards.entries = relay.entries.reverse := rfl
  have hperm : relay.entries.Perm relayBackwards.entries :=
    hentries ▸ (List.reverse_perm relay.entries).symm
  refine ⟨hperm, ?_⟩
  have hok : relay.resolved.isOk = true := by decide +kernel
  have hurl : ∀ reordered ∈ relayBackwards.resolved.toOption,
      reordered.textAt? "url" = some "<<region>>.example/api" := by
    decide +kernel
  rcases resolved_perm hperm with
    ⟨result, reordered, hresult, hreordered, hto, hto', hsame⟩ | ⟨e, e', he, -⟩
  · refine ⟨result, reordered, hresult, hreordered, hto.keys, hto'.keys, ?_, ?_⟩
    · exact hurl reordered (by rw [hreordered]; rfl)
    · rw [textAt?, textAt?, hsame]
  · rw [he] at hok
    cases hok

end Store

end FlowRunner
