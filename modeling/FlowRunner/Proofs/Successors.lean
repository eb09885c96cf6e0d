import FlowRunner.Proofs.LeadingIntegers
import FlowRunner.Proofs.PlainTexts

/-!
# Successors

The number that an increment refers to may have any size (`Increment.Refers`). Where it and its
successor fit 64 bits with a sign, the increment is the successor. What is too large is refused,
however it is written, and so is a text that names something too small.

A stored number that is too small is the exception: it is moved to the end of the range first, and
the increment is the successor of that end. Only a float can be so small. Without such a number every
outcome is faithful, and with one none is (`Increment.faithful_iff`).
-/

namespace FlowRunner

theorem mapError_eq_ok_iff {ε δ α : Type} {f : ε → δ} {outcome : Except ε α} {a : α} :
    outcome.mapError f = .ok a ↔ outcome = .ok a := by
  cases outcome with
  | error e => simp [Except.mapError]
  | ok b => simp [Except.mapError]

namespace Increment

/-- The number that a key refers to, of any size: the stored number without its fraction, the
integer at the start of the stored text or, where nothing is stored, that at the start of the key. -/
inductive Refers (store : Store) (key : String) : ℤ → Prop
  | number {x : Number} (h : store.get? key = some (.number x)) :
    Refers store key (towardZero x.value)
  | text {s : String} {n : ℤ} (h : store.get? key = some (.text s))
    (hn : Reading.LeadingInteger (Text.trim s.toList) n) : Refers store key n
  | literal {n : ℤ} (h : store.get? key = none)
    (hn : Reading.LeadingInteger (Text.trim key.toList) n) : Refers store key n

/-- An outcome that is the successor of the number referred to, or an error, and an error wherever
that successor does not fit. -/
structure Faithful (store : Store) (key : String) (outcome : Except ResolveError Value) : Prop where
  result : ∀ v, outcome = .ok v →
    ∃ n, Refers store key n ∧
      ∃ hrange : Number.InRange (n + 1), v = .number (.integer (n + 1) hrange)
  refused : (¬ ∃ n, Refers store key n ∧ Reading.FitsSigned (n + 1)) →
    ∃ value, outcome = .error (.noIncrement key value)

/-- A stored number that does not pass the lower end of 64 bits with a sign. -/
def Bounded (store : Store) (key : String) : Prop :=
  ∀ x, store.get? key = some (.number x) → -9223372036854775808 ≤ towardZero x.value

variable {store : Store} {key : String}

theorem base?_of_number {x : Number} (h : store.get? key = some (.number x)) :
    base? store key = some (Number.clampSigned (towardZero x.value)) := by
  rw [base?, h]
  exact congrArg some x.toSigned_eq_clampSigned

/-- A key refers to one number at most. -/
theorem Refers.unique {m n : ℤ} (hm : Refers store key m) (hn : Refers store key n) : m = n := by
  cases hm with
  | number hget =>
    cases hn with
    | number hother =>
      cases hget.symm.trans hother
      rfl
    | text hother _ => cases hget.symm.trans hother
    | literal hother _ => cases hget.symm.trans hother
  | text hget hread =>
    cases hn with
    | number hother => cases hget.symm.trans hother
    | text hother hagain =>
      cases hget.symm.trans hother
      exact hread.unique hagain
    | literal hother _ => cases hget.symm.trans hother
  | literal hget hread =>
    cases hn with
    | number hother => cases hget.symm.trans hother
    | text hother _ => cases hget.symm.trans hother
    | literal _ hagain => exact hread.unique hagain

theorem Refers.real {x : Binary64} (h : store.get? key = some (.number (.real x))) :
    Refers store key x.truncate := by
  rw [x.truncate_eq]
  exact .number h

/-- A number that fits is the base of the increment. -/
theorem Refers.base?_eq {n : ℤ} (h : Refers store key n) (hfits : Reading.FitsSigned n) :
    base? store key = some n := by
  cases h with
  | @number x hget =>
    have hclamp : Number.clampSigned (towardZero x.value) = towardZero x.value := by
      unfold Reading.FitsSigned at hfits
      unfold Number.clampSigned
      omega
    rw [base?_of_number hget, hclamp]
  | text hget hn =>
    rw [base?, hget]
    exact leading?_eq_some_iff.mpr ⟨hn, hfits⟩
  | literal hget hn =>
    rw [base?, hget]
    exact leading?_eq_some_iff.mpr ⟨hn, hfits⟩

/-- A base below the upper end is the number referred to, unless that one is too small. -/
theorem refers_of_base? (hbounded : Bounded store key) {n : ℤ} (h : base? store key = some n)
    (hlarge : n < largest) : Refers store key n := by
  have hbase := h
  unfold base? at h
  split at h
  · rename_i v hget
    unfold ofValue? at h
    split at h
    · rename_i x
      rw [base?_of_number hget] at hbase
      have hclamp : Number.clampSigned (towardZero x.value) = n := Option.some.inj hbase
      have hlow := hbounded x hget
      have hexact : n = towardZero x.value := by
        unfold Number.clampSigned at hclamp
        unfold largest at hlarge
        omega
      rw [hexact]
      exact .number hget
    · exact .text hget (leading?_eq_some_iff.mp h).1
    · cases h
  · rename_i hget
    exact .literal hget (leading?_eq_some_iff.mp h).1

theorem resolveText_of_reference {s : String} {reference : List Char}
    (h : reference? s.toList = some reference) (store : Store) :
    Placeholder.resolveText store s =
      (next store (keyOf reference)).mapError (.noIncrement (keyOf reference)) := by
  unfold Placeholder.resolveText
  rw [h]
  dsimp only
  cases next store (keyOf reference) <;> rfl

/-- The successor of a number that fits, as its own successor does. -/
theorem Refers.next_eq {n : ℤ} (h : Refers store key n) (hfits : Reading.FitsSigned n)
    (hsucc : Reading.FitsSigned (n + 1)) : next store key = .ok (.ofInt (n + 1)) := by
  have hlarge : n < largest := by
    unfold Reading.FitsSigned at hsucc
    unfold largest
    omega
  rw [next, h.base?_eq hfits]
  exact if_pos hlarge

theorem faithful_of_bounded (hbounded : Bounded store key) :
    Faithful store key ((next store key).mapError (.noIncrement key)) := by
  constructor
  · intro v hv
    obtain ⟨n, hbase, hlarge, hrange, rfl⟩ := next_eq_ok_iff.mp (mapError_eq_ok_iff.mp hv)
    exact ⟨n, refers_of_base? hbounded hbase hlarge, hrange, rfl⟩
  · intro hnone
    cases hnext : next store key with
    | error value => exact ⟨value, rfl⟩
    | ok v =>
      obtain ⟨n, hbase, hlarge, -, -⟩ := next_eq_ok_iff.mp hnext
      have hfits := fitsSigned_of_base? hbase
      have hsucc : Reading.FitsSigned (n + 1) := by
        unfold Reading.FitsSigned at hfits ⊢
        unfold largest at hlarge
        omega
      exact absurd ⟨n, refers_of_base? hbounded hbase hlarge, hsucc⟩ hnone

/-- A stored number that is too small is taken for the lower end of the range. -/
theorem next_of_lt {x : Number} (h : store.get? key = some (.number x))
    (hlow : towardZero x.value < -9223372036854775808) :
    next store key = .ok (.ofInt (-9223372036854775807)) := by
  have hclamp : Number.clampSigned (towardZero x.value) = -9223372036854775808 := by
    unfold Number.clampSigned
    omega
  rw [next, base?_of_number h, hclamp]
  rfl

theorem not_faithful_of_lt {x : Number} (h : store.get? key = some (.number x))
    (hlow : towardZero x.value < -9223372036854775808) :
    ¬ Faithful store key ((next store key).mapError (.noIncrement key)) := by
  intro hfaithful
  rw [next_of_lt h hlow] at hfaithful
  obtain ⟨n, hrefers, hrange, hvalue⟩ := hfaithful.result _ rfl
  have hn : n = towardZero x.value := hrefers.unique (.number h)
  have hsucc : (-9223372036854775807 : ℤ) = n + 1 := by
    injection hvalue with hvalue
    injection hvalue
  omega

/-- In a text with an increment, the successor is exact wherever it and the number referred to fit.
Every outcome is the exact successor or an error, unless a stored number is too small. -/
theorem faithful_iff {store : Store} {s : String} {reference : List Char}
    (h : reference? s.toList = some reference) :
    (∀ n, Refers store (keyOf reference) n → Reading.FitsSigned n → Reading.FitsSigned (n + 1) →
        Placeholder.resolveText store s = .ok (.ofInt (n + 1))) ∧
      (Faithful store (keyOf reference) (Placeholder.resolveText store s) ↔
        Bounded store (keyOf reference)) := by
  rw [resolveText_of_reference h]
  constructor
  · intro n hrefers hfits hsucc
    rw [hrefers.next_eq hfits hsucc]
    rfl
  · constructor
    · intro hfaithful x hget
      by_contra hlow
      exact not_faithful_of_lt hget (by omega) hfaithful
    · exact faithful_of_bounded

/-- A store with one float in it. -/
def holding (key : String) (x : Binary64) : Store :=
  .ofPairs [(key, .number (.real x))]

/-- A float near the upper end of the range, where floats are a thousand apart. -/
def topmost : Binary64 :=
  ⟨false, 9007199254740991, 10, by decide⟩

theorem faithful_iff_topmost :
    reference? "no. increment(<<count>>)".toList = some "<<count>>".toList ∧
      keyOf "<<count>>".toList = "count" ∧
      Placeholder.resolveText (holding "count" topmost) "no. increment(<<count>>)" =
        .ok (.ofInt 9223372036854774785) ∧
      Faithful (holding "count" topmost) "count"
        (Placeholder.resolveText (holding "count" topmost) "no. increment(<<count>>)") := by
  have hreference : reference? "no. increment(<<count>>)".toList = some "<<count>>".toList := by
    decide +kernel
  have hkey : keyOf "<<count>>".toList = "count" := by decide +kernel
  have htruncate : topmost.truncate = 9223372036854774784 := by decide +kernel
  have hget : (holding "count" topmost).get? "count" = some (.number (.real topmost)) := rfl
  obtain ⟨hexact, hfaithful⟩ := @faithful_iff (holding "count" topmost) _ _ hreference
  rw [hkey] at hexact hfaithful
  refine ⟨hreference, hkey, ?_, ?_⟩
  · have hrefers := Refers.real hget
    rw [htruncate] at hrefers
    exact hexact _ hrefers (by decide) (by decide)
  · refine hfaithful.mpr ?_
    intro x hx
    cases hx
    rw [Number.value, ← Binary64.truncate_eq, htruncate]
    decide

/-- The float `-2 ^ 64`. -/
def sunken : Binary64 :=
  ⟨true, 4503599627370496, 12, by decide⟩

/-- The successor of `-2 ^ 64` is taken for that of `-2 ^ 63`. -/
theorem sunken_not_faithful :
    reference? "increment(a)".toList = some "a".toList ∧
      keyOf "a".toList = "a" ∧
      Refers (holding "a" sunken) "a" (-18446744073709551616) ∧
      Placeholder.resolveText (holding "a" sunken) "increment(a)" =
        .ok (.ofInt (-9223372036854775807)) ∧
      ¬ Faithful (holding "a" sunken) "a"
        (Placeholder.resolveText (holding "a" sunken) "increment(a)") := by
  have hreference : reference? "increment(a)".toList = some "a".toList := by decide +kernel
  have hkey : keyOf "a".toList = "a" := by decide +kernel
  have htruncate : sunken.truncate = -18446744073709551616 := by decide +kernel
  have hget : (holding "a" sunken).get? "a" = some (.number (.real sunken)) := rfl
  have hrefers := Refers.real hget
  rw [htruncate] at hrefers
  have hlow : towardZero (Number.real sunken).value < -9223372036854775808 := by
    rw [Number.value, ← Binary64.truncate_eq, htruncate]
    decide
  rw [resolveText_of_reference hreference, hkey]
  refine ⟨hreference, hkey, hrefers, ?_, not_faithful_of_lt hget hlow⟩
  rw [next_of_lt hget hlow]
  rfl

end Increment

end FlowRunner
