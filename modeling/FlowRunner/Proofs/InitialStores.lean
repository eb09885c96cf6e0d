import FlowRunner.Proofs.Passage
import FlowRunner.Proofs.References
import Mathlib.Logic.Relation

/-!
# Initial stores

A run starts with the seeded store, resolved once against the values as they are written. What a
placeholder puts somewhere is not looked at again, so each reference is followed for one link.

* `Workflow.initial_settled`: where no placeholder leads to a value with references of its own, and
  none come up by filling texts in, the initial store is settled: resolving it again changes
  nothing.
* `Store.relay_unsettled`: a chain of two links leaves a store that is not settled, although no
  reference leads back to where it starts. So does a text whose parts spell an increment.
-/

namespace FlowRunner

/-- The keys that the texts in a value ask for. -/
def Value.references (v : Value) : List String :=
  v.texts.flatMap Placeholder.references

namespace Store

/-- The value under a key asks for another key. -/
def Refers (store : Store) (key other : String) : Prop :=
  ∃ v ∈ store.get? key, other ∈ v.references

/-- No chain of references leads back to where it starts. -/
def Acyclic (store : Store) : Prop :=
  ∀ key, ¬ Relation.TransGen store.Refers key key

/-- References go for one link only. An increment may refer to anything, because it stands for a
number. -/
@[mk_iff]
structure Shallow (store : Store) : Prop where
  /-- No placeholder leads to a value that refers to anything. -/
  links : ∀ s ∈ store.toValue.texts, Increment.reference? s.toList = none →
    ∀ key ∈ Placeholder.references s, ∀ v ∈ store.get? key, v.references = []
  /-- No text refers to anything once its placeholders are filled in. -/
  filled : ∀ s ∈ store.toValue.texts, Increment.reference? s.toList = none →
    wholeKey? s.toList = none →
      Placeholder.references (String.ofList (Placeholder.substitute store s.toList)) = []

instance (store : Store) : Decidable store.Shallow :=
  decidable_of_iff' _ (shallow_iff store)

/-- References that go down in rank do not lead back to where they start. -/
theorem acyclic_of_rank {store : Store} (rank : String → Nat)
    (h : ∀ member ∈ store.entries, ∀ other ∈ member.2.references, rank other < rank member.1) :
    store.Acyclic := by
  intro key hcycle
  have hstep : store.Refers ≤ Function.onFun (fun m n => m > n) rank := by
    rintro key other ⟨v, hv, hother⟩
    exact h (key, v) (Members.mem_of_get?_eq_some hv) other hother
  have hranks := hcycle.lift rank hstep
  rw [Relation.transGen_eq_self] at hranks
  exact lt_irrefl _ hranks

end Store

/-! ## What is left to resolve -/

namespace Placeholder

variable {store : Store}

theorem references_eq_nil_iff {v : Value} :
    v.references = [] ↔ ∀ s ∈ v.texts, references s = [] :=
  List.flatMap_eq_nil_iff

/-- In a shallow store, what a text stands for refers to nothing. -/
theorem references_of_resolveText (h : store.Shallow) {s : String}
    (hs : s ∈ store.toValue.texts) {v : Value} (hv : resolveText store s = .ok v) :
    v.references = [] := by
  unfold resolveText at hv
  split at hv
  · dsimp only at hv
    split at hv
    · rename_i number hnext
      cases hv
      obtain ⟨n, rfl⟩ := Increment.eq_number_of_next hnext
      rfl
    · cases hv
  · rename_i hnone
    cases hv
    unfold resolvePlain
    cases hwhole : wholeKey? s.toList with
    | none =>
      exact references_eq_nil_iff.mpr
        (List.forall_mem_singleton.mpr (h.filled s hs hnone hwhole))
    | some key =>
      have hkey : String.ofList key ∈ references s := by
        rw [references, hnone]
        dsimp only
        rw [hwhole]
        exact List.mem_singleton.mpr rfl
      dsimp only
      cases hget : store.get? (String.ofList key) with
      | none => rfl
      | some v => exact h.links s hs hnone _ hkey v hget

end Placeholder

namespace Store

/-- A shallow store is settled once it has been resolved. -/
theorem Shallow.resolved {store initial : Store} (h : store.Shallow)
    (hinitial : store.resolved = .ok initial) : initial.resolved = .ok initial := by
  have hentries := resolved_eq_ok_iff.mp hinitial
  -- The entries are resolved like the members of one object.
  have hobject : Placeholder.resolve store store.toValue = .ok initial.toValue := by
    rw [toValue, Placeholder.resolve, hentries]
    rfl
  have hsettled : ∀ member ∈ initial.entries,
      Placeholder.resolve initial member.2 = .ok member.2 := by
    intro member hmember
    refine Placeholder.resolve_of_settled (fun t ht => ?_) _
    have htexts : t ∈ initial.toValue.texts :=
      Value.mem_texts_object.mpr ⟨member, hmember, ht⟩
    obtain ⟨s, hs, u, hu, htu⟩ := Placeholder.exists_text_of_resolve hobject htexts
    have hnothing := Placeholder.references_of_resolveText h hs hu
    exact Placeholder.references_eq_nil_iff.mp hnothing t htu
  exact resolved_eq_ok_iff.mpr (Placeholder.resolveMembers_of_fixed hsettled)

end Store

/-- A run starts with a settled store, when the seeded one is shallow and can be resolved. -/
theorem Workflow.initial_settled {w : Workflow} {overrides : Option Store} {initial : Store}
    (hshallow : (Store.seeded w.params overrides).Shallow)
    (hinitial : (Store.seeded w.params overrides).resolved = .ok initial) :
    (∀ config, w.run config overrides = runSteps config 0 initial w.steps) ∧
      initial.resolved = .ok initial :=
  ⟨run_of_resolved hinitial, hshallow.resolved hinitial⟩

/-- A workflow with parameters for a deployment and no steps. -/
def Workflow.deployment : Workflow where
  name := none
  params := .ofPairs [("url", .text "https://<<host>>/api"),
    ("build", .text "increment(<<last>>)"), ("last", .text "<<host>>"),
    ("host", .text "example.com")]
  steps := []

theorem Workflow.initial_settled_deployment :
    let overrides : Store := .ofPairs [("last", .text "41"), ("tags", .list [.text "<<last>>"])]
    (Store.seeded deployment.params (some overrides)).Shallow ∧
      ∃ initial, (Store.seeded deployment.params (some overrides)).resolved = .ok initial ∧
        (∀ config, deployment.run config (some overrides) =
          runSteps config 0 initial deployment.steps) ∧
        initial.resolved = .ok initial := by
  intro overrides
  have hshallow : (Store.seeded deployment.params (some overrides)).Shallow := by decide +kernel
  have hok : (Store.seeded deployment.params (some overrides)).resolved.isOk = true := by
    decide +kernel
  obtain ⟨initial, hinitial⟩ := Except.exists_eq_ok_of_isOk hok
  exact ⟨hshallow, initial, hinitial, initial_settled hshallow hinitial⟩

/-! ## Chains of links -/

namespace Store

/-- The text under a key. -/
def textAt? (store : Store) (key : String) : Option String :=
  (store.get? key).bind Value.asText?

/-- A chain of two links. -/
def relay : Store :=
  .ofPairs [("url", .text "<<host>>/api"), ("host", .text "<<region>>.example"),
    ("region", .text "eu")]

/-- One link to a text without references, which completes an increment. -/
def pieces : Store :=
  .ofPairs [("next", .text "<<word>>rement(41)"), ("word", .text "inc")]

/-- A run without steps, which ends with the store it starts with, ends with one that is not
settled. -/
def Unsettled (params : Store) : Prop :=
  ∃ initial, (∀ config, Workflow.run config ⟨none, params, []⟩ none = .done (.completed initial)) ∧
    initial.resolved ≠ .ok initial

theorem unsettled_of_textAt? {params : Store} (key : String)
    (hok : (seeded params none).resolved.isOk = true)
    (hchanges : ∀ initial ∈ (seeded params none).resolved.toOption,
      initial.resolved.toOption.map (·.textAt? key) ≠ some (initial.textAt? key)) :
    Unsettled params := by
  obtain ⟨initial, hinitial⟩ := Except.exists_eq_ok_of_isOk hok
  refine ⟨initial, Workflow.run_of_resolved hinitial, fun hsettled => ?_⟩
  have hsame := hchanges initial (by rw [hinitial]; rfl)
  rw [hsettled] at hsame
  exact hsame rfl

/-- References that lead nowhere back are not enough for a settled store. -/
theorem relay_unsettled :
    ((seeded relay none).Acyclic ∧ Unsettled relay) ∧
      (seeded pieces none).Acyclic ∧ Unsettled pieces := by
  have hrelay : (seeded relay none).Acyclic :=
    acyclic_of_rank (fun key => 6 - key.length) (by decide +kernel)
  have hpieces : (seeded pieces none).Acyclic :=
    acyclic_of_rank (fun key => if key = "next" then 1 else 0) (by decide +kernel)
  refine ⟨⟨hrelay, ?_⟩, hpieces, ?_⟩
  · exact unsettled_of_textAt? "url" (by decide +kernel) (by decide +kernel)
  · exact unsettled_of_textAt? "next" (by decide +kernel) (by decide +kernel)

end Store

end FlowRunner
