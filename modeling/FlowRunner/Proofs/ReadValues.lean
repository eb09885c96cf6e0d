import FlowRunner.Proofs.Locations
import FlowRunner.Proofs.PlainTexts
import FlowRunner.Shape.OfJson
import FlowRunner.Shape.OfYaml

/-!
# Values that are read

No object in a value that is read has a key twice, however deep inside: the readers of objects set
each member in turn (`Value.keysDistinct_of_ofJson`, `Shape.keysDistinct_of_nodeValue`). Filling in
placeholders keeps this, as long as it holds of the stored values
(`Placeholder.keysDistinct_of_resolve`).

JSON and YAML are read in different monads. `Gives` is all that is needed of either.
-/

namespace FlowRunner

/-- A monad that reads: which values a reading can give. -/
class Gives (m : Type → Type) [Monad m] where
  gives {α : Type} : m α → α → Prop
  of_pure {α : Type} {a b : α} : gives (pure a) b → a = b
  of_bind {α β : Type} {x : m α} {f : α → m β} {b : β} :
    gives (x >>= f) b → ∃ a, gives x a ∧ gives (f a) b

open Gives (gives)

instance {ε : Type} : Gives (Except ε) where
  gives x a := x = .ok a
  of_pure := Except.ok.inj
  of_bind {_ _ x _ _} h := by
    cases x with
    | error e => cases h
    | ok a => exact ⟨a, rfl, h⟩

instance {τ : Type} : Gives (StateT τ Option) where
  gives x a := ∃ s t, x.run s = some (a, t)
  of_pure := by
    rintro α a b ⟨s, t, h⟩
    cases h
    rfl
  of_bind {_ _ x _ _} h := by
    obtain ⟨s, t, h⟩ := h
    rw [StateT.run_bind] at h
    obtain ⟨⟨a, u⟩, hx, hf⟩ := Option.bind_eq_some_iff.mp h
    exact ⟨a, ⟨s, u, hx⟩, u, t, hf⟩

theorem Gives.exists_of_mapM {m : Type → Type} [Monad m] [Gives m] {α β : Type} {f : α → m β}
    {items : List α} {results : List β} (h : gives (items.mapM f) results) :
    ∀ result ∈ results, ∃ item, gives (f item) result := by
  -- The loop collects results in reverse, so those that it starts from have to be general.
  have hloop : ∀ (items : List α) (soFar results : List β),
      gives (List.mapM.loop f items soFar) results → (∀ b ∈ soFar, ∃ item, gives (f item) b) →
      ∀ b ∈ results, ∃ item, gives (f item) b := by
    intro items
    induction items with
    | nil =>
      intro soFar results h hsoFar b hb
      obtain rfl := Gives.of_pure h
      exact hsoFar b (List.mem_reverse.mp hb)
    | cons item rest ih =>
      intro soFar results h hsoFar
      obtain ⟨b, hb, hrest⟩ := Gives.of_bind h
      exact ih (b :: soFar) results hrest (List.forall_mem_cons.mpr ⟨⟨item, hb⟩, hsoFar⟩)
  exact hloop items [] results h (List.forall_mem_nil _)

/-! ## Objects from pairs -/

theorem Members.mem_of_mem_put {α : Type} {key : String} {value : α} {members : List (String × α)}
    {member : String × α} (h : member ∈ put key value members) :
    member = (key, value) ∨ member ∈ members := by
  induction members with
  | nil => exact .inl (List.mem_singleton.mp h)
  | cons first rest ih =>
    obtain ⟨k, v⟩ := first
    rw [put] at h
    split at h
    · exact (List.mem_cons.mp h).imp_right (List.mem_cons_of_mem _)
    · rcases List.mem_cons.mp h with rfl | h
      · exact .inr List.mem_cons_self
      · exact (ih h).imp_right (List.mem_cons_of_mem _)

theorem Members.mem_of_mem_merge {α : Type} {members pairs : List (String × α)}
    {member : String × α} (h : member ∈ merge members pairs) :
    member ∈ members ∨ member ∈ pairs := by
  unfold merge at h
  induction pairs generalizing members with
  | nil => exact .inl h
  | cons pair rest ih =>
    rcases ih h with h | h
    · rcases mem_of_mem_put h with rfl | h
      · exact .inr List.mem_cons_self
      · exact .inl h
    · exact .inr (List.mem_cons_of_mem _ h)

/-- An object made by setting pairs in turn has no key twice, if none of the values has. -/
theorem Value.keysDistinct_ofPairs {pairs : List (String × Value)}
    (h : ∀ pair ∈ pairs, pair.2.KeysDistinct) :
    (Value.object (Members.ofPairs pairs)).KeysDistinct := by
  refine keysDistinct_object (Members.distinct_ofPairs pairs) fun member hmember => ?_
  rcases Members.mem_of_mem_merge hmember with hnone | hpair
  · cases hnone
  · exact h member hpair

/-! ## JSON -/

namespace Json.Draft

mutual

theorem keysDistinct_of_toValue {depth : Nat} {d : Draft} {v : Value}
    (h : d.toValue depth = .ok v) : v.KeysDistinct := by
  match d with
  | .null =>
    cases h
    exact Value.keysDistinct_of_isLeaf rfl
  | .bool b =>
    cases h
    exact Value.keysDistinct_of_isLeaf rfl
  | .number n =>
    rw [toValue] at h
    cases n with
    | error fault => cases h
    | ok n =>
      cases h
      exact Value.keysDistinct_of_isLeaf rfl
  | .text s =>
    rw [toValue] at h
    cases s with
    | error fault => cases h
    | ok s =>
      cases h
      exact Value.keysDistinct_of_isLeaf rfl
  | .list items ending =>
    rw [toValue] at h
    split at h
    · cases h
    · obtain ⟨values, hvalues, h⟩ := Gives.of_bind (m := Except Fault) h
      obtain ⟨-, -, h⟩ := Gives.of_bind (m := Except Fault) h
      cases h
      exact Value.keysDistinct_list (keysDistinct_of_toValues hvalues)
  | .object members ending =>
    rw [toValue] at h
    split at h
    · cases h
    · obtain ⟨pairs, hpairs, h⟩ := Gives.of_bind (m := Except Fault) h
      obtain ⟨-, -, h⟩ := Gives.of_bind (m := Except Fault) h
      cases h
      exact Value.keysDistinct_ofPairs (keysDistinct_of_toPairs hpairs)
  | .broken fault _ => cases h

theorem keysDistinct_of_toValues {depth : Nat} {items : List Draft} {values : List Value}
    (h : toValues depth items = .ok values) : ∀ v ∈ values, v.KeysDistinct := by
  match items with
  | [] =>
    cases h
    exact List.forall_mem_nil _
  | d :: rest =>
    rw [toValues] at h
    obtain ⟨v, hv, h⟩ := Gives.of_bind (m := Except Fault) h
    obtain ⟨vs, hvs, h⟩ := Gives.of_bind (m := Except Fault) h
    cases h
    exact List.forall_mem_cons.mpr ⟨keysDistinct_of_toValue hv, keysDistinct_of_toValues hvs⟩

theorem keysDistinct_of_toPairs {depth : Nat} {members : List (Except Fault String × Draft)}
    {pairs : List (String × Value)} (h : toPairs depth members = .ok pairs) :
    ∀ pair ∈ pairs, pair.2.KeysDistinct := by
  match members with
  | [] =>
    cases h
    exact List.forall_mem_nil _
  | (key, d) :: rest =>
    rw [toPairs] at h
    obtain ⟨k, -, h⟩ := Gives.of_bind (m := Except Fault) h
    obtain ⟨v, hv, h⟩ := Gives.of_bind (m := Except Fault) h
    obtain ⟨more, hmore, h⟩ := Gives.of_bind (m := Except Fault) h
    cases h
    exact List.forall_mem_cons.mpr ⟨keysDistinct_of_toValue hv, keysDistinct_of_toPairs hmore⟩

end

end Json.Draft

/-- No object in the value of a JSON text has a key twice. -/
theorem Value.keysDistinct_of_ofJson {text : String} {v : Value} (h : ofJson text = .ok v) :
    v.KeysDistinct := by
  obtain ⟨read, hread, h⟩ := Gives.of_bind (m := Except Json.Fault) h
  obtain ⟨-, -, h⟩ := Gives.of_bind (m := Except Json.Fault) h
  cases h
  exact Json.Draft.keysDistinct_of_toValue hread

/-! ## YAML -/

namespace Yaml

theorem isLeaf_ofInt (n : Int) : (Value.ofInt n).isLeaf = true := by
  unfold Value.ofInt
  split <;> rfl

theorem isLeaf_ofReal (x : Real64) : (Value.ofReal x).isLeaf = true := by
  cases x <;> rfl

theorem isLeaf_of_integer? {s : List Char} {v : Value} (h : integer? s = some (some v)) :
    v.isLeaf = true := by
  unfold integer? at h
  split at h
  · cases h
    exact isLeaf_ofInt _
  · split at h
    · cases h
      exact isLeaf_ofInt _
    · split at h <;> cases h

theorem isLeaf_of_plainValue? {s : List Char} {v : Value} (h : plainValue? s = some v) :
    v.isLeaf = true := by
  unfold plainValue? at h
  split at h
  · cases h
    rfl
  split at h
  · cases h
    rfl
  split at h
  · rename_i hinteger
    rw [h] at hinteger
    exact isLeaf_of_integer? hinteger
  split at h
  · cases h
    exact isLeaf_ofReal _
  · cases h
    rfl

theorem isLeaf_of_value? {s : Scalar} {v : Value} (h : s.value? = some v) : v.isLeaf = true := by
  unfold Scalar.value? at h
  dsimp only at h
  split at h
  · split at h
    · cases h
    split at h
    · obtain ⟨b, -, rfl⟩ := Option.map_eq_some_iff.mp h
      rfl
    split at h
    · obtain ⟨w, hinteger, rfl⟩ := Option.bind_eq_some_iff.mp h
      exact isLeaf_of_integer? hinteger
    split at h
    · obtain ⟨x, -, rfl⟩ := Option.map_eq_some_iff.mp h
      exact isLeaf_ofReal x
    split at h
    · split at h <;> cases h
      rfl
    · cases h
      rfl
  · split at h
    · exact isLeaf_of_plainValue? h
    · cases h
      rfl

end Yaml

namespace Shape

open Yaml (Document Node Scalar)

theorem not_gives_failure {α : Type} {a : α} : ¬ gives (failure : Following α) a := by
  rintro ⟨s, t, h⟩
  cases h

theorem keysDistinct_of_scalarValue {s : Scalar} {v : Value} (h : gives (scalarValue s) v) :
    v.KeysDistinct := by
  unfold scalarValue at h
  split at h
  · rename_i hvalue
    obtain rfl := Gives.of_pure h
    exact Value.keysDistinct_of_isLeaf (Yaml.isLeaf_of_value? hvalue)
  · exact absurd h not_gives_failure

theorem keysDistinct_of_readMembers {doc : Document} {read : Node → Following Value}
    (hread : ∀ node v, gives (read node) v → v.KeysDistinct) {members : List (Node × Node)}
    {v : Value} (h : gives (readMembers doc read members) v) : v.KeysDistinct := by
  obtain ⟨pairs, hpairs, h⟩ := Gives.of_bind h
  obtain rfl := Gives.of_pure h
  refine Value.keysDistinct_ofPairs fun pair hpair => ?_
  obtain ⟨member, hmember⟩ := Gives.exists_of_mapM hpairs pair hpair
  obtain ⟨k, -, hmember⟩ := Gives.of_bind hmember
  obtain ⟨value, hvalue, hmember⟩ := Gives.of_bind hmember
  obtain rfl := Gives.of_pure hmember
  exact hread _ value hvalue

/-- No object in the value of a YAML node has a key twice. -/
theorem keysDistinct_of_nodeValue {doc : Document} {depth : Nat} {node : Node} {v : Value}
    (h : gives (nodeValue doc depth node) v) : v.KeysDistinct := by
  induction depth generalizing node v with
  | zero =>
    obtain ⟨found, -, h⟩ := Gives.of_bind h
    split at h
    · exact keysDistinct_of_scalarValue h
    · exact absurd h not_gives_failure
  | succ depth ih =>
    obtain ⟨found, -, h⟩ := Gives.of_bind h
    split at h
    · exact keysDistinct_of_scalarValue h
    · split at h
      · exact absurd h not_gives_failure
      · obtain ⟨values, hvalues, h⟩ := Gives.of_bind h
        obtain rfl := Gives.of_pure h
        refine Value.keysDistinct_list fun v hv => ?_
        obtain ⟨item, hitem⟩ := Gives.exists_of_mapM hvalues v hv
        exact ih hitem
    · split at h
      · exact absurd h not_gives_failure
      · exact keysDistinct_of_readMembers (fun _ _ => ih) h
    · exact absurd h not_gives_failure

end Shape

/-! ## Placeholders -/

namespace Placeholder

variable {store : Store}

theorem keysDistinct_of_resolveText (hstore : ∀ key, ∀ v ∈ store.get? key, v.KeysDistinct)
    {s : String} {w : Value} (h : resolveText store s = .ok w) : w.KeysDistinct := by
  unfold resolveText at h
  split at h
  · dsimp only at h
    split at h
    · rename_i hnext
      cases h
      obtain ⟨n, rfl⟩ := Increment.eq_number_of_next hnext
      exact Value.keysDistinct_of_isLeaf rfl
    · cases h
  · cases h
    unfold resolvePlain
    split
    · rename_i key _
      cases hget : store.get? (String.ofList key) with
      | none => exact Value.keysDistinct_of_isLeaf rfl
      | some v => exact hstore _ v hget
    · exact Value.keysDistinct_of_isLeaf rfl

mutual

/-- A value with its placeholders filled in has no key twice, if neither it nor a stored value
has. -/
theorem keysDistinct_of_resolve (hstore : ∀ key, ∀ v ∈ store.get? key, v.KeysDistinct)
    {v w : Value} (hv : v.KeysDistinct) (h : resolve store v = .ok w) : w.KeysDistinct := by
  match v with
  | .null =>
    cases h
    exact hv
  | .bool b =>
    cases h
    exact hv
  | .number n =>
    cases h
    exact hv
  | .text s => exact keysDistinct_of_resolveText hstore h
  | .list items =>
    rw [resolve, Except.map_eq_ok_iff] at h
    obtain ⟨results, hitems, rfl⟩ := h
    exact Value.keysDistinct_list
      (keysDistinct_of_resolveItems hstore (fun _ hitem => hv.item hitem) hitems)
  | .object members =>
    rw [resolve, Except.map_eq_ok_iff] at h
    obtain ⟨results, hmembers, rfl⟩ := h
    exact Value.keysDistinct_object (distinct_of_resolveMembers hv.members hmembers)
      (keysDistinct_of_resolveMembers hstore (fun _ hmember => hv.value hmember) hmembers)

theorem keysDistinct_of_resolveItems (hstore : ∀ key, ∀ v ∈ store.get? key, v.KeysDistinct)
    {items results : List Value} (hitems : ∀ item ∈ items, item.KeysDistinct)
    (h : resolveItems store items = .ok results) : ∀ result ∈ results, result.KeysDistinct := by
  match items with
  | [] =>
    cases h
    exact List.forall_mem_nil _
  | v :: rest =>
    obtain ⟨hv, hrest⟩ := List.forall_mem_cons.mp hitems
    obtain ⟨w, ws, hw, hws, rfl⟩ := resolveItems_cons_eq_ok h
    exact List.forall_mem_cons.mpr
      ⟨keysDistinct_of_resolve hstore hv hw, keysDistinct_of_resolveItems hstore hrest hws⟩

theorem keysDistinct_of_resolveMembers (hstore : ∀ key, ∀ v ∈ store.get? key, v.KeysDistinct)
    {members results : List (String × Value)} (hmembers : ∀ member ∈ members, member.2.KeysDistinct)
    (h : resolveMembers store members = .ok results) :
    ∀ result ∈ results, result.2.KeysDistinct := by
  match members with
  | [] =>
    cases h
    exact List.forall_mem_nil _
  | (key, v) :: rest =>
    obtain ⟨hv, hrest⟩ := List.forall_mem_cons.mp hmembers
    obtain ⟨w, pairs, hw, hpairs, rfl⟩ := resolveMembers_cons_eq_ok h
    exact List.forall_mem_cons.mpr
      ⟨keysDistinct_of_resolve hstore hv hw, keysDistinct_of_resolveMembers hstore hrest hpairs⟩

end

end Placeholder

end FlowRunner
