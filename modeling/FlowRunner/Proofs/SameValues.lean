import FlowRunner.Proofs.ExactNumbers
import FlowRunner.Proofs.References

/-!
# Values that are the same

Two values are alike when whatever can be reached in one of them is reached in the other, and the
same stands there: null, a truth value, a number of one kind, a text, or something that can be
entered. The order in which an object is written is not part of this.

* `Binary64.same_iff`: floats are the same when they are equal as numbers.
* `Members.length_eq_and_iff_rel`: between equally many members, a counterpart for each on one side
  is a counterpart for each on both.
* `Value.same_iff`: where no object has a key twice, being the same is being alike.
-/

namespace FlowRunner

/-! ## Numbers -/

namespace Binary64

variable {x y : Binary64}

/-- A magnitude that can be named with a small exponent is not named with a larger one. -/
theorem exponent_le_of_magnitude_eq (h : x.magnitude = y.magnitude) : y.exponent ≤ x.exponent := by
  by_contra hlt
  obtain ⟨hbound, hleast, -, -⟩ := x.canonical
  obtain ⟨-, -, -, hbits⟩ := y.canonical
  obtain ⟨k, hk⟩ : ∃ k : ℕ, y.exponent = x.exponent + (k + 1 : ℕ) :=
    ⟨(y.exponent - x.exponent - 1).toNat, by omega⟩
  have hpower : (2 : ℚ) ^ x.exponent ≠ 0 := zpow_ne_zero _ two_ne_zero
  have hmantissa : x.mantissa = y.mantissa * 2 ^ (k + 1) := by
    unfold magnitude at h
    rw [hk, zpow_add₀ two_ne_zero, zpow_natCast, mul_comm ((2 : ℚ) ^ x.exponent), ← mul_assoc] at h
    exact_mod_cast mul_right_cancel₀ hpower h
  -- The larger exponent is not the least, so its mantissa has 53 bits, and the other has more.
  have hfull : 4503599627370496 ≤ y.mantissa := by omega
  have hdouble : y.mantissa * 2 ≤ x.mantissa := by
    rw [hmantissa]
    exact Nat.mul_le_mul_left _ (Nat.le_self_pow (Nat.succ_ne_zero k) 2)
  omega

theorem magnitude_eq_iff :
    x.magnitude = y.magnitude ↔ x.mantissa = y.mantissa ∧ x.exponent = y.exponent := by
  constructor
  · intro h
    have hexponent : x.exponent = y.exponent :=
      le_antisymm (exponent_le_of_magnitude_eq h.symm) (exponent_le_of_magnitude_eq h)
    have hpower : (2 : ℚ) ^ y.exponent ≠ 0 := zpow_ne_zero _ two_ne_zero
    unfold magnitude at h
    rw [hexponent] at h
    exact ⟨by exact_mod_cast mul_right_cancel₀ hpower h, hexponent⟩
  · rintro ⟨hmantissa, hexponent⟩
    rw [magnitude, magnitude, hmantissa, hexponent]

/-- Of zero, the sign does not matter. -/
theorem value_eq_iff :
    x.value = y.value ↔
      (x.value = 0 ∧ y.value = 0) ∨ (x.negative = y.negative ∧ x.magnitude = y.magnitude) := by
  by_cases hsign : x.negative = y.negative
  · have hvalue : x.value = y.value ↔ x.magnitude = y.magnitude := by
      unfold value
      rw [hsign]
      split
      · exact neg_inj
      · exact Iff.rfl
    rw [← hvalue]
    constructor
    · exact fun h => .inr ⟨hsign, h⟩
    · rintro (⟨hzero, hother⟩ | ⟨-, h⟩)
      · exact hzero.trans hother.symm
      · exact h
  · have hopposite : x.value ≤ 0 ∧ 0 ≤ y.value ∨ 0 ≤ x.value ∧ y.value ≤ 0 := by
      unfold value
      cases hx : x.negative <;> cases hy : y.negative <;> simp_all [magnitude_nonneg]
    constructor
    · intro h
      rcases hopposite with ⟨hx, hy⟩ | ⟨hx, hy⟩
      · exact .inl ⟨le_antisymm hx (h ▸ hy), le_antisymm (h ▸ hx) hy⟩
      · exact .inl ⟨le_antisymm (h ▸ hy) hx, le_antisymm hy (h ▸ hx)⟩
    · rintro (⟨hzero, hother⟩ | ⟨hsame, -⟩)
      · exact hzero.trans hother.symm
      · exact absurd hsame hsign

/-- Floats are the same when they stand for one number. -/
theorem same_iff : x.same y = true ↔ x.value = y.value := by
  rw [value_eq_iff, magnitude_eq_iff, ← isZero_iff, ← isZero_iff]
  simp [same, and_assoc]

end Binary64

namespace Number

/-- Whether a number is a float. -/
def isReal : Number → Bool
  | .integer _ _ => false
  | .real _ => true

theorem same_iff {x y : Number} : x.same y = true ↔ x.isReal = y.isReal ∧ x.value = y.value := by
  cases x <;> cases y <;> simp [same, isReal, value, Binary64.same_iff]

end Number

/-! ## Members one by one -/

namespace Option

variable {α β : Type} {R S : α → β → Prop} {x : Option α} {y : Option β}

theorem rel_iff : Option.Rel R x y ↔ x.isSome = y.isSome ∧ ∀ a ∈ x, ∀ b ∈ y, R a b := by
  cases x with
  | none => cases y <;> simp [Option.rel_none_none]
  | some a => cases y <;> simp [Option.rel_some_some]

theorem rel_congr (h : ∀ a ∈ x, ∀ b ∈ y, R a b ↔ S a b) :
    Option.Rel R x y ↔ Option.Rel S x y := by
  rw [rel_iff, rel_iff]
  exact and_congr_right' (forall₂_congr fun a ha => forall₂_congr fun b hb => h a ha b hb)

end Option

namespace Members

variable {α : Type}

theorem isSome_get?_iff {key : String} {members : List (String × α)} :
    (get? key members).isSome = true ↔ key ∈ keys members := by
  rw [← not_iff_not, Bool.not_eq_true, Option.isSome_eq_false_iff, Option.isNone_iff_eq_none,
    get?_eq_none_iff]

/-- Where no key comes twice and there are equally many members, it is enough that each member on one
side has its counterpart on the other. -/
theorem length_eq_and_iff_rel {members others : List (String × α)} {R : α → α → Prop}
    (h : Distinct members) (hothers : Distinct others) :
    (members.length = others.length ∧
        ∀ member ∈ members, ∃ other, get? member.1 others = some other ∧ R member.2 other) ↔
      ∀ key, Option.Rel R (get? key members) (get? key others) := by
  constructor
  · rintro ⟨hlength, hmembers⟩ key
    have hsubset : keys members ⊆ keys others := by
      intro name hname
      obtain ⟨member, hmember, rfl⟩ := List.mem_map.mp hname
      obtain ⟨other, hother, -⟩ := hmembers member hmember
      exact isSome_get?_iff.mp (Option.isSome_of_eq_some hother)
    have hperm : (keys members).Perm (keys others) := by
      refine (List.subperm_of_subset h hsubset).perm_of_length_le (Nat.le_of_eq ?_)
      rw [keys, keys, List.length_map, List.length_map, hlength]
    refine Option.rel_iff.mpr ⟨?_, fun value hvalue other hother => ?_⟩
    · rw [Bool.eq_iff_iff, isSome_get?_iff, isSome_get?_iff, hperm.mem_iff]
    · obtain ⟨found, hfound, hrel⟩ := hmembers (key, value) (mem_of_get?_eq_some hvalue)
      cases hfound.symm.trans hother
      exact hrel
  · intro hrel
    have hkeys : ∀ key, key ∈ keys members ↔ key ∈ keys others := by
      intro key
      rw [← isSome_get?_iff, ← isSome_get?_iff, (Option.rel_iff.mp (hrel key)).1]
    refine ⟨?_, fun member hmember => ?_⟩
    · have hperm := (List.perm_ext_iff_of_nodup h hothers).mpr hkeys
      simpa [keys] using hperm.length_eq
    · have hkey := (hkeys member.1).mp (List.mem_map_of_mem hmember)
      obtain ⟨other, hother⟩ := Option.isSome_iff_exists.mp (isSome_get?_iff.mpr hkey)
      have hvalue : get? member.1 members = some member.2 := (get?_eq_some_iff h).mpr hmember
      exact ⟨other, hother, (Option.rel_iff.mp (hrel member.1)).2 member.2 hvalue other hother⟩

end Members

/-! ## Values -/

namespace Value

/-- What stands at one place in a value, apart from what can be entered there. -/
inductive Head
  | null
  | bool (value : Bool)
  | number (isReal : Bool) (value : ℚ)
  | text (value : String)
  | list
  | object
  deriving DecidableEq

/-- What stands outermost in a value. -/
def head : Value → Head
  | .null => .null
  | .bool b => .bool b
  | .number x => .number x.isReal x.value
  | .text s => .text s
  | .list _ => .list
  | .object _ => .object

/-- At every location the same stands in both values, or nothing in either. -/
def Alike (v w : Value) : Prop :=
  ∀ location, (v.at? location).map head = (w.at? location).map head

theorem Alike.refl (v : Value) : v.Alike v :=
  fun _ => rfl

/-- Values are alike when the same stands outermost and every step leads to values alike. -/
theorem alike_iff {v w : Value} :
    v.Alike w ↔ v.head = w.head ∧ ∀ turn, Option.Rel Alike (v.enter? turn) (w.enter? turn) := by
  have hturn : ∀ {x y : Option Value}, Option.Rel Alike x y ↔
      ∀ rest, (x.bind fun inner => inner.at? rest).map head =
        (y.bind fun inner => inner.at? rest).map head := by
    intro x y
    cases x <;> cases y
    · exact iff_of_true .none fun _ => rfl
    · exact iff_of_false nofun fun h => nomatch h []
    · exact iff_of_false nofun fun h => nomatch h []
    · exact Option.rel_some_some
  constructor
  · intro h
    exact ⟨Option.some.inj (h []), fun turn => hturn.mpr fun rest => h (turn :: rest)⟩
  · rintro ⟨hhead, hturns⟩ (_ | ⟨turn, rest⟩)
    · exact congrArg some hhead
    · exact hturn.mp (hturns turn) rest

theorem isLeaf_iff_head {v : Value} : v.isLeaf = true ↔ v.head ≠ .list ∧ v.head ≠ .object := by
  cases v <;> simp [isLeaf, head]

/-- Nothing more can be told of a scalar than what it is. -/
theorem alike_iff_of_isLeaf {v w : Value} (h : v.isLeaf = true) : v.Alike w ↔ v.head = w.head := by
  rw [alike_iff]
  refine and_iff_left_of_imp fun hhead turn => ?_
  have hleaf : w.isLeaf = true := isLeaf_iff_head.mpr (hhead ▸ isLeaf_iff_head.mp h)
  rw [enter?_of_isLeaf h, enter?_of_isLeaf hleaf]
  exact .none

theorem same_iff_of_isLeaf {v w : Value} (h : v.isLeaf = true) :
    v.same w = true ↔ v.head = w.head := by
  cases v with
  | list items => cases h
  | object members => cases h
  | _ => cases w <;> simp [same, head, Number.same_iff]

theorem alike_list_iff {items others : List Value} :
    (list items).Alike (list others) ↔ ∀ i : Nat, Option.Rel Alike items[i]? others[i]? := by
  rw [alike_iff]
  constructor
  · rintro ⟨-, hturns⟩ i
    exact hturns (.position i)
  · refine fun h => ⟨rfl, fun turn => ?_⟩
    cases turn with
    | key name => exact .none
    | position i => exact h i

theorem alike_object_iff {members others : List (String × Value)} :
    (object members).Alike (object others) ↔
      ∀ key, Option.Rel Alike (Members.get? key members) (Members.get? key others) := by
  rw [alike_iff]
  constructor
  · rintro ⟨-, hturns⟩ key
    exact hturns (.key key)
  · refine fun h => ⟨rfl, fun turn => ?_⟩
    cases turn with
    | key name => exact h name
    | position i => exact .none

theorem sameItems_iff {items others : List Value} :
    sameItems items others = true ↔
      ∀ i : Nat, Option.Rel (fun v w => v.same w = true) items[i]? others[i]? := by
  induction items generalizing others with
  | nil =>
    cases others with
    | nil => exact iff_of_true rfl fun _ => .none
    | cons w more => exact iff_of_false nofun fun h => nomatch h 0
  | cons v rest ih =>
    cases others with
    | nil => exact iff_of_false nofun fun h => nomatch h 0
    | cons w more =>
      rw [sameItems, Bool.and_eq_true, ih]
      constructor
      · rintro ⟨hfirst, hrest⟩ (_ | i)
        · exact .some hfirst
        · exact hrest i
      · intro h
        obtain ⟨-, hfirst⟩ := Option.rel_iff.mp (h 0)
        exact ⟨hfirst v rfl w rfl, fun i => h (i + 1)⟩

theorem sameMembers_iff {members others : List (String × Value)} :
    sameMembers members others = true ↔
      ∀ member ∈ members, ∃ w, Members.get? member.1 others = some w ∧
        member.2.same w = true := by
  induction members with
  | nil => simp [sameMembers]
  | cons member rest ih =>
    obtain ⟨key, v⟩ := member
    rw [sameMembers, Bool.and_eq_true, ih, List.forall_mem_cons]
    cases Members.get? key others <;> simp

/-- Values in which no object has a key twice are the same when they are alike. -/
theorem same_iff {v w : Value} (hv : v.KeysDistinct) (hw : w.KeysDistinct) :
    v.same w = true ↔ v.Alike w := by
  induction v using Value.induction generalizing w with
  | leaf v hleaf => rw [same_iff_of_isLeaf hleaf, alike_iff_of_isLeaf hleaf]
  | list items ih =>
    cases w with
    | list others =>
      rw [same, sameItems_iff, alike_list_iff]
      refine forall_congr' fun i => Option.rel_congr fun inner hinner other hother => ?_
      have henter : (list items).enter? (.position i) = some inner := hinner
      have hmeet : (list others).enter? (.position i) = some other := hother
      exact ih inner (List.mem_of_getElem? hinner) (hv.enter henter) (hw.enter hmeet)
    | _ => exact iff_of_false nofun fun h => nomatch (alike_iff.mp h).1
  | object members ih =>
    cases w with
    | object others =>
      rw [same, Bool.and_eq_true, beq_iff_eq, sameMembers_iff, alike_object_iff]
      refine (Members.length_eq_and_iff_rel (R := fun inner other => inner.same other = true)
        hv.members hw.members).trans ?_
      refine forall_congr' fun key => Option.rel_congr fun inner hinner other hother => ?_
      have henter : (object members).enter? (.key key) = some inner := hinner
      have hmeet : (object others).enter? (.key key) = some other := hother
      exact ih (key, inner) (Members.mem_of_get?_eq_some hinner) (hv.enter henter) (hw.enter hmeet)
    | _ => exact iff_of_false nofun fun h => nomatch (alike_iff.mp h).1

/-- Every value is the same as itself. -/
theorem same_self {v : Value} (h : v.KeysDistinct) : v.same v = true :=
  (same_iff h h).mpr (.refl v)

end Value

end FlowRunner
