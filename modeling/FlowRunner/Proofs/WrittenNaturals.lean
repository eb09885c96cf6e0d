import FlowRunner.Number.Reading
import FlowRunner.Proofs.CutTexts
import Mathlib.Tactic.SplitIfs

/-!
# Natural numbers in texts

A natural number is written in decimal digits, with a plus sign in front or without
(`Reading.Unsigned`). Such a text is read exactly when the number fits
(`Reading.natural?_eq_some_iff`); leading zeros do not matter, and nothing else is read.
-/

namespace FlowRunner.Reading

/-- A text of digits, at least one, which may have a plus sign in front of it, and the natural
number that it stands for. -/
inductive Unsigned : List Char → Nat → Prop
  | bare {digits : List Char} (hne : digits ≠ []) (h : ∀ c ∈ digits, c.isDigit = true) :
    Unsigned digits (Nat.ofDigitChars 10 digits 0)
  | plus {digits : List Char} (hne : digits ≠ []) (h : ∀ c ∈ digits, c.isDigit = true) :
    Unsigned ('+' :: digits) (Nat.ofDigitChars 10 digits 0)

theorem digit?_eq_some_iff {c : Char} {d : Nat} :
    digit? 10 c = some d ↔ c.isDigit = true ∧ d = c.toNat - 48 := by
  rw [Text.isDigit_iff_toNat]
  unfold digit?
  dsimp only
  constructor
  · intro h
    rw [Option.ite_none_right_eq_some, Option.some.injEq] at h
    -- A letter stands for ten or more, and any other character for the base.
    split_ifs at h <;> omega
  · rintro ⟨hrange, rfl⟩
    rw [if_pos hrange, if_pos (by omega)]

theorem digitsFrom_of_isDigit {s : List Char} (h : ∀ c ∈ s, c.isDigit = true) (n : Nat) :
    digitsFrom 10 n s = some (Nat.ofDigitChars 10 s n) := by
  induction s generalizing n with
  | nil => rfl
  | cons c rest ih =>
    obtain ⟨hc, hrest⟩ := List.forall_mem_cons.mp h
    rw [digitsFrom, digit?_eq_some_iff.mpr ⟨hc, rfl⟩]
    dsimp only
    rw [ih hrest, Nat.ofDigitChars_cons, Nat.mul_comm]
    rfl

theorem isDigit_of_digitsFrom {s : List Char} {n m : Nat} (h : digitsFrom 10 n s = some m) :
    ∀ c ∈ s, c.isDigit = true := by
  induction s generalizing n with
  | nil => exact List.forall_mem_nil _
  | cons c rest ih =>
    rw [digitsFrom] at h
    split at h
    · rename_i d hdigit
      exact List.forall_mem_cons.mpr ⟨(digit?_eq_some_iff.mp hdigit).1, ih h⟩
    · cases h

theorem digits?_eq_some_iff {s : List Char} {n : Nat} :
    digits? 10 s = some n ↔
      s ≠ [] ∧ (∀ c ∈ s, c.isDigit = true) ∧ n = Nat.ofDigitChars 10 s 0 := by
  constructor
  · intro h
    have hne : s ≠ [] := by
      rintro rfl
      cases h
    rw [digits?.eq_2 10 _ hne] at h
    have hdigits := isDigit_of_digitsFrom h
    rw [digitsFrom_of_isDigit hdigits] at h
    exact ⟨hne, hdigits, (Option.some.inj h).symm⟩
  · rintro ⟨hne, hdigits, rfl⟩
    rw [digits?.eq_2 10 _ hne, digitsFrom_of_isDigit hdigits]

/-- A natural number is read of its texts, when it fits, and of no others. -/
theorem natural?_eq_some_iff {bits : Nat} {s : List Char} {n : Nat} :
    natural? bits s = some n ↔ Unsigned s n ∧ fits bits n = true := by
  unfold natural?
  dsimp only
  rw [Option.filter_eq_some_iff]
  refine and_congr_left' ?_
  constructor
  · intro h
    split at h
    · obtain ⟨hne, hdigits, rfl⟩ := digits?_eq_some_iff.mp h
      exact .plus hne hdigits
    · obtain ⟨hne, hdigits, rfl⟩ := digits?_eq_some_iff.mp h
      exact .bare hne hdigits
  · intro h
    cases h with
    | plus hne hdigits => exact digits?_eq_some_iff.mpr ⟨hne, hdigits, rfl⟩
    | bare hne hdigits =>
      split
      · cases hdigits '+' List.mem_cons_self
      · exact digits?_eq_some_iff.mpr ⟨hne, hdigits, rfl⟩

theorem isDigit_of_mem_toString {n : Nat} {c : Char} (h : c ∈ (toString n).toList) :
    c.isDigit = true := by
  rw [Nat.toString_eq_repr, Nat.toList_repr] at h
  exact Nat.isDigit_of_mem_toDigits (by decide) (by decide) h

theorem toList_toString_ne_nil (n : Nat) : (toString n).toList ≠ [] := by
  rw [Nat.toString_eq_repr, Nat.toList_repr]
  exact Nat.toDigits_ne_nil

theorem ofDigitChars_toString (n : Nat) : Nat.ofDigitChars 10 (toString n).toList 0 = n := by
  rw [Nat.toString_eq_repr, Nat.toList_repr, Nat.ofDigitChars_ten_toDigits]

theorem toString_nat_injective : Function.Injective (toString : Nat → String) := by
  intro m n h
  rw [← ofDigitChars_toString m, h, ofDigitChars_toString]

theorem unsigned_toString (n : Nat) : Unsigned (toString n).toList n := by
  have h := Unsigned.bare (toList_toString_ne_nil n) fun c => isDigit_of_mem_toString
  rwa [ofDigitChars_toString] at h

theorem unsigned_toString_iff {n m : Nat} : Unsigned (toString n).toList m ↔ n = m := by
  refine ⟨fun h => ?_, fun h => h ▸ unsigned_toString n⟩
  generalize hs : (toString n).toList = s at h
  cases h with
  | bare hne hdigits => rw [← hs, ofDigitChars_toString]
  | plus hne hdigits =>
    have hplus : '+' ∈ (toString n).toList := hs ▸ List.mem_cons_self
    cases isDigit_of_mem_toString hplus

/-- A number is read back from its text when it fits. -/
theorem natural?_toString_eq (bits n : Nat) :
    natural? bits (toString n).toList = (some n).filter (fits bits) := by
  apply Option.ext
  intro m
  rw [natural?_eq_some_iff, unsigned_toString_iff, Option.filter_eq_some_iff, Option.some.injEq]

theorem natural?_toString {bits n : Nat} (h : fits bits n = true) :
    natural? bits (toString n).toList = some n := by
  rw [natural?_toString_eq, Option.filter_some, if_pos h]

end FlowRunner.Reading
