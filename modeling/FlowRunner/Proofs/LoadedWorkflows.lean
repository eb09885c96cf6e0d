import FlowRunner.Flow.Workflow
import FlowRunner.Proofs.ReadValues

/-!
# Loaded workflows

No object in typed data that is read from a text has a key twice, if the fields of its records have
names of their own and no default has a key twice (`Shape.distinctReader_read`). So it is with the
parameters and the steps of a workflow, whatever text this is read from
(`Workflow.keysDistinct_of_ofJson`, `Workflow.keysDistinct_of_ofYaml?`).
-/

namespace FlowRunner

open Gives (gives)

/-! ## Records -/

namespace Slot

variable {m : Type → Type} {σ : Type}

theorem keysDistinct_assemble {slots : List (Slot m σ)} {found : List (String × Value)}
    (hnames : (slots.map Slot.name).Nodup)
    (hdefault : ∀ slot ∈ slots, slot.default.KeysDistinct)
    (hfound : ∀ member ∈ found, member.2.KeysDistinct) : (assemble slots found).KeysDistinct := by
  refine Value.keysDistinct_object ?_ fun member hmember => ?_
  · rw [Members.Distinct, Members.keys, List.map_map]
    exact hnames
  · obtain ⟨slot, hslot, rfl⟩ := List.mem_map.mp hmember
    dsimp only
    cases hget : Members.get? slot.name found with
    | none => exact hdefault slot hslot
    | some v => exact hfound _ (Members.mem_of_get?_eq_some hget)

variable [Monad m] [Gives m]

theorem keysDistinct_of_fill {slots : List (Slot m σ)} {repeated : String → m Unit}
    {skip : σ → m Unit}
    (hread : ∀ slot ∈ slots, ∀ item v, gives (slot.read item) v → v.KeysDistinct)
    {members : List (m String × σ)} {found result : List (String × Value)}
    (hfound : ∀ member ∈ found, member.2.KeysDistinct)
    (h : gives (fill slots repeated skip found members) result) :
    ∀ member ∈ result, member.2.KeysDistinct := by
  induction members generalizing found with
  | nil =>
    rw [fill] at h
    exact Gives.of_pure h ▸ hfound
  | cons member rest ih =>
    obtain ⟨readKey, item⟩ := member
    rw [fill] at h
    obtain ⟨key, -, h⟩ := Gives.of_bind h
    cases hslot : slots.find? (·.named key) with
    | none =>
      simp only [hslot] at h
      obtain ⟨-, -, h⟩ := Gives.of_bind h
      exact ih hfound h
    | some slot =>
      simp only [hslot] at h
      have hnext : gives (slot.read item >>= fun value =>
          fill slots repeated skip (found ++ [(slot.name, value)]) rest) result := by
        split at h
        · obtain ⟨-, -, h⟩ := Gives.of_bind h
          exact h
        · exact h
      obtain ⟨value, hvalue, hrest⟩ := Gives.of_bind hnext
      have hdistinct := hread slot (List.mem_of_find?_eq_some hslot) item value hvalue
      exact ih (List.forall_mem_append.mpr ⟨hfound, List.forall_mem_singleton.mpr hdistinct⟩) hrest

theorem keysDistinct_of_fillInOrder {slots : List (Slot m σ)}
    (hread : ∀ slot ∈ slots, ∀ item v, gives (slot.read item) v → v.KeysDistinct)
    {items : List σ} {result : List (String × Value) × List σ}
    (h : gives (fillInOrder slots items) result) :
    ∀ member ∈ result.1, member.2.KeysDistinct := by
  induction slots generalizing items result with
  | nil =>
    rw [fillInOrder] at h
    obtain rfl := Gives.of_pure h
    exact List.forall_mem_nil _
  | cons slot rest ih =>
    obtain ⟨hslot, hrest⟩ := List.forall_mem_cons.mp hread
    cases items with
    | nil =>
      rw [fillInOrder] at h
      obtain rfl := Gives.of_pure h
      exact List.forall_mem_nil _
    | cons item items =>
      rw [fillInOrder] at h
      obtain ⟨value, hvalue, h⟩ := Gives.of_bind h
      obtain ⟨more, hmore, h⟩ := Gives.of_bind h
      obtain rfl := Gives.of_pure h
      exact List.forall_mem_cons.mpr ⟨hslot item value hvalue, ih hrest hmore⟩

end Slot

/-! ## Sources -/

/-- No value that a reader gives has a key twice. -/
def DistinctReader {m : Type → Type} {σ : Type} [Monad m] [Gives m] (read : σ → m Value) : Prop :=
  ∀ item v, gives (read item) v → v.KeysDistinct

/-- A source whose readers give no key twice. -/
structure Source.Distinct {m : Type → Type} {σ : Type} [Monad m] [Gives m] (source : Source m σ) :
    Prop where
  anything : DistinctReader source.anything
  text : DistinctReader source.text
  optionalText : DistinctReader source.optionalText
  natural : ∀ bits, DistinctReader (source.natural bits)
  list : ∀ read, DistinctReader read → DistinctReader (source.list read)
  map : ∀ read, DistinctReader read → DistinctReader (source.map read)
  record : ∀ title slots, (slots.map Slot.name).Nodup →
    (∀ slot ∈ slots, slot.default.KeysDistinct) →
    (∀ slot ∈ slots, DistinctReader slot.read) → DistinctReader (source.record title slots)

namespace Shape

open Json.Draft (keysDistinct_of_toValue)

theorem keysDistinct_of_pieceText {p : Piece} {v : Value} (h : pieceText p = .ok v) :
    v.KeysDistinct := by
  unfold pieceText at h
  split at h
  · rename_i read _
    cases read with
    | error fault => cases h
    | ok s =>
      cases h
      exact Value.keysDistinct_of_isLeaf rfl
  · cases h

/-- JSON text gives no key twice. -/
theorem pieceSource_distinct : pieceSource.Distinct where
  anything _ _ h := keysDistinct_of_toValue h
  text _ _ h := keysDistinct_of_pieceText h
  optionalText p v h := by
    change pieceOptionalText p = .ok v at h
    unfold pieceOptionalText at h
    split at h
    · cases h
      exact Value.keysDistinct_of_isLeaf rfl
    · exact keysDistinct_of_pieceText h
  natural bits p v h := by
    change pieceNatural bits p = .ok v at h
    unfold pieceNatural at h
    split at h
    · obtain ⟨n, -, h⟩ := Gives.of_bind (m := Except Json.Fault) h
      split at h
      · split at h <;> cases h
        exact Value.keysDistinct_of_isLeaf rfl
      · cases h
    · cases h
  list read hread p v h := by
    change gives (pieceList read p) v at h
    unfold pieceList at h
    split at h
    · obtain ⟨depth, -, h⟩ := Gives.of_bind h
      obtain ⟨values, hvalues, h⟩ := Gives.of_bind h
      obtain ⟨-, -, h⟩ := Gives.of_bind h
      obtain rfl := Gives.of_pure h
      refine Value.keysDistinct_list fun v hv => ?_
      obtain ⟨draft, hdraft⟩ := Gives.exists_of_mapM hvalues v hv
      exact hread _ v hdraft
    · cases h
  map read hread p v h := by
    change gives (pieceMap read p) v at h
    unfold pieceMap at h
    split at h
    · obtain ⟨depth, -, h⟩ := Gives.of_bind h
      obtain ⟨pairs, hpairs, h⟩ := Gives.of_bind h
      obtain ⟨-, -, h⟩ := Gives.of_bind h
      obtain rfl := Gives.of_pure h
      refine Value.keysDistinct_ofPairs fun pair hpair => ?_
      obtain ⟨member, hmember⟩ := Gives.exists_of_mapM hpairs pair hpair
      obtain ⟨key, -, hmember⟩ := Gives.of_bind hmember
      obtain ⟨value, hvalue, hmember⟩ := Gives.of_bind hmember
      obtain rfl := Gives.of_pure hmember
      exact hread _ value hvalue
    · cases h
  record title slots hnames hdefault hread p v h := by
    change gives (pieceRecord slots p) v at h
    unfold pieceRecord at h
    split at h
    · obtain ⟨depth, -, h⟩ := Gives.of_bind h
      obtain ⟨found, hfound, h⟩ := Gives.of_bind h
      obtain ⟨-, -, h⟩ := Gives.of_bind h
      obtain rfl := Gives.of_pure h
      exact Slot.keysDistinct_assemble hnames hdefault
        (Slot.keysDistinct_of_fill hread (List.forall_mem_nil _) hfound)
    · obtain ⟨depth, -, h⟩ := Gives.of_bind h
      obtain ⟨⟨found, rest⟩, hfound, h⟩ := Gives.of_bind h
      dsimp only at h
      split at h
      · obtain ⟨-, -, h⟩ := Gives.of_bind h
        obtain rfl := Gives.of_pure h
        exact Slot.keysDistinct_assemble hnames hdefault
          (Slot.keysDistinct_of_fillInOrder hread hfound)
      · cases h
    · cases h

/-- YAML nodes give no key twice. -/
theorem spotSource_distinct (doc : Yaml.Document) : (spotSource doc).Distinct where
  anything _ _ h := keysDistinct_of_nodeValue h
  text p v h := by
    obtain ⟨text, -, h⟩ := Gives.of_bind h
    obtain rfl := Gives.of_pure h
    exact Value.keysDistinct_of_isLeaf rfl
  optionalText p v h := by
    obtain ⟨node, -, h⟩ := Gives.of_bind h
    split at h
    · split at h
      · obtain rfl := Gives.of_pure h
        exact Value.keysDistinct_of_isLeaf rfl
      · obtain rfl := Gives.of_pure h
        exact Value.keysDistinct_of_isLeaf rfl
      · exact absurd h not_gives_failure
    · exact absurd h not_gives_failure
  natural bits p v h := by
    obtain ⟨node, -, h⟩ := Gives.of_bind h
    split at h
    · dsimp only at h
      split at h
      · split at h
        · obtain rfl := Gives.of_pure h
          exact Value.keysDistinct_of_isLeaf (Yaml.isLeaf_ofInt _)
        · exact absurd h not_gives_failure
      · exact absurd h not_gives_failure
    · exact absurd h not_gives_failure
  list read hread p v h := by
    obtain ⟨node, -, h⟩ := Gives.of_bind h
    split at h
    · obtain ⟨depth, -, h⟩ := Gives.of_bind h
      obtain ⟨values, hvalues, h⟩ := Gives.of_bind h
      obtain rfl := Gives.of_pure h
      refine Value.keysDistinct_list fun v hv => ?_
      obtain ⟨inner, hinner⟩ := Gives.exists_of_mapM hvalues v hv
      exact hread _ v hinner
    · split at h
      · obtain rfl := Gives.of_pure h
        exact Value.keysDistinct_list (List.forall_mem_nil _)
      · exact absurd h not_gives_failure
    · exact absurd h not_gives_failure
  map read hread p v h := by
    obtain ⟨node, -, h⟩ := Gives.of_bind h
    split at h
    · obtain ⟨depth, -, h⟩ := Gives.of_bind h
      exact keysDistinct_of_readMembers (fun _ => hread _) h
    · split at h
      · obtain rfl := Gives.of_pure h
        exact Value.keysDistinct_object Members.distinct_nil (List.forall_mem_nil _)
      · exact absurd h not_gives_failure
    · exact absurd h not_gives_failure
  record title slots hnames hdefault hread p v h := by
    obtain ⟨node, -, h⟩ := Gives.of_bind h
    split at h
    · obtain ⟨depth, -, h⟩ := Gives.of_bind h
      obtain ⟨found, hfound, h⟩ := Gives.of_bind h
      obtain rfl := Gives.of_pure h
      exact Slot.keysDistinct_assemble hnames hdefault
        (Slot.keysDistinct_of_fill hread (List.forall_mem_nil _) hfound)
    · split at h
      · obtain rfl := Gives.of_pure h
        exact Slot.keysDistinct_assemble hnames hdefault (List.forall_mem_nil _)
      · exact absurd h not_gives_failure
    · exact absurd h not_gives_failure

end Shape

/-! ## Shapes -/

/-- The names of fields. -/
def Field.names : List Field → List String
  | [] => []
  | .mk name _ _ _ :: rest => name :: names rest

mutual

/-- The fields of every record have names of their own, and no default has a key twice. -/
def Shape.Sound : Shape → Prop
  | .list item => item.Sound
  | .map value => value.Sound
  | .record _ fields => (Field.names fields).Nodup ∧ Field.Sound fields
  | _ => True

def Field.Sound : List Field → Prop
  | [] => True
  | .mk _ _ shape default :: rest => shape.Sound ∧ default.KeysDistinct ∧ Field.Sound rest

end

theorem Field.names_slots {m : Type → Type} {σ : Type} (source : Source m σ) (fields : List Field) :
    (slots source fields).map Slot.name = names fields := by
  induction fields with
  | nil => rfl
  | cons field rest ih =>
    obtain ⟨name, others, shape, default⟩ := field
    exact congrArg (name :: ·) ih

section

variable {m : Type → Type} {σ : Type} [Monad m] [Gives m] {source : Source m σ}

mutual

/-- Data of a shape is read without a key that comes twice. -/
theorem Shape.distinctReader_read (hsource : source.Distinct) {shape : Shape} (h : shape.Sound) :
    DistinctReader (shape.read source) := by
  match shape with
  | .anything => exact hsource.anything
  | .text => exact hsource.text
  | .optionalText => exact hsource.optionalText
  | .natural bits => exact hsource.natural bits
  | .list item => exact hsource.list _ (item.distinctReader_read hsource h)
  | .map value => exact hsource.map _ (value.distinctReader_read hsource h)
  | .record title fields =>
    obtain ⟨hnames, hfields⟩ := h
    rw [← Field.names_slots source] at hnames
    have hslots := Field.distinct_slots hsource hfields
    exact hsource.record title _ hnames (fun slot hslot => (hslots slot hslot).1)
      fun slot hslot => (hslots slot hslot).2

theorem Field.distinct_slots (hsource : source.Distinct) {fields : List Field}
    (h : Field.Sound fields) :
    ∀ slot ∈ Field.slots source fields, slot.default.KeysDistinct ∧ DistinctReader slot.read := by
  match fields with
  | [] => exact List.forall_mem_nil _
  | .mk name others shape default :: rest =>
    obtain ⟨hshape, hdefault, hrest⟩ := h
    exact List.forall_mem_cons.mpr
      ⟨⟨hdefault, Shape.distinctReader_read hsource hshape⟩, Field.distinct_slots hsource hrest⟩

end

end

/-- No object in typed data from a JSON text has a key twice. -/
theorem Shape.keysDistinct_of_ofJson {shape : Shape} (hsound : shape.Sound) {text : String}
    {v : Value} (h : shape.ofJson text = .ok v) : v.KeysDistinct := by
  obtain ⟨read, hread, h⟩ := Gives.of_bind (m := Except Json.Fault) h
  obtain ⟨-, -, h⟩ := Gives.of_bind (m := Except Json.Fault) h
  cases h
  exact distinctReader_read pieceSource_distinct hsound _ _ hread

/-- No object in typed data from a YAML text has a key twice. -/
theorem Shape.keysDistinct_of_ofYaml? {shape : Shape} (hsound : shape.Sound) {text : String}
    {v : Value} (h : shape.ofYaml? text = some v) : v.KeysDistinct := by
  unfold ofYaml? at h
  obtain ⟨doc, -, h⟩ := Option.bind_eq_some_iff.mp h
  obtain ⟨⟨read, t⟩, hread, h⟩ := Option.bind_eq_some_iff.mp h
  cases h
  exact distinctReader_read (spotSource_distinct doc) hsound _ _ ⟨0, t, hread⟩

/-! ## Workflows -/

namespace Workflow

theorem shape_sound : shape.Sound := by
  have hobject : (Value.object []).KeysDistinct :=
    Value.keysDistinct_object Members.distinct_nil (List.forall_mem_nil _)
  have hlist : (Value.list []).KeysDistinct := Value.keysDistinct_list (List.forall_mem_nil _)
  have hnull : Value.null.KeysDistinct := Value.keysDistinct_of_isLeaf rfl
  simp [shape, Shape.Sound, Field.Sound, Field.names, hobject, hlist, hnull]

/-- No object in the parameters or in a step of a workflow has a key twice. -/
structure KeysDistinct (w : Workflow) : Prop where
  params : w.params.toValue.KeysDistinct
  steps : ∀ raw ∈ w.steps, (Value.object raw).KeysDistinct

theorem keysDistinct_of_member? {v inner : Value} {key : String} (h : v.KeysDistinct)
    (hinner : v.member? key = some inner) : inner.KeysDistinct := by
  cases v with
  | object members =>
    have hturn : (Value.object members).enter? (.key key) = some inner := hinner
    exact h.enter hturn
  | _ => cases hinner

theorem keysDistinct_ofRecord {v : Value} (h : v.KeysDistinct) : (ofRecord v).KeysDistinct := by
  constructor
  · refine Value.keysDistinct_ofPairs fun pair hpair => ?_
    unfold Value.membersAt at hpair
    split at hpair
    · rename_i members hmembers
      exact (keysDistinct_of_member? h hmembers).value hpair
    · cases hpair
  · intro raw hraw
    simp only [ofRecord] at hraw
    split at hraw
    · rename_i items hsteps
      obtain ⟨item, hitem, hobject⟩ := List.mem_filterMap.mp hraw
      have hdistinct := (keysDistinct_of_member? h hsteps).item hitem
      split at hobject
      · cases hobject
        exact hdistinct
      · cases hobject
    · cases hraw

theorem keysDistinct_of_ofJson {text : String} {w : Workflow} (h : ofJson text = .ok w) :
    w.KeysDistinct := by
  obtain ⟨v, hv, rfl⟩ := Except.map_eq_ok_iff.mp h
  exact keysDistinct_ofRecord (Shape.keysDistinct_of_ofJson shape_sound hv)

theorem keysDistinct_of_ofYaml? {text : String} {w : Workflow} (h : ofYaml? text = some w) :
    w.KeysDistinct := by
  obtain ⟨v, hv, rfl⟩ := Option.map_eq_some_iff.mp h
  exact keysDistinct_ofRecord (Shape.keysDistinct_of_ofYaml? shape_sound hv)

end Workflow

end FlowRunner
