import FlowRunner.Proofs.KeptTexts

/-!
# Numbers that are compared

An expectation is met by anything with the same text, and yet the comparison of numbers is exact
where an integer takes part. Two integers have the same text only when they are equal. A float has
the text of an integer only when it stands for that integer and has at most fifteen digits; from
sixteen digits on it is written with a point or an exponent (`Mismatch.integer_matches_iff`).
-/

namespace FlowRunner

/-- The text of an integer tells which one it is. -/
theorem Reading.toString_inj {m n : ℤ} : toString m = toString n ↔ m = n := by
  constructor
  · intro h
    have hm := leadingInteger_toString m
    rw [h] at hm
    exact hm.unique (leadingInteger_toString n)
  · exact congrArg toString

namespace Value

theorem comparable_of_value_eq {x : Binary64} {n : ℤ} (hvalue : x.value = n)
    (hsmall : |x.value| < 10 ^ 15) : (Value.number (.real x)).comparable = toString n := by
  have hwhole := (comparedAsInteger_real_iff x).mp ⟨⟨n, hvalue⟩, hsmall⟩
  rw [comparable, if_pos hwhole, x.truncate_eq, hvalue, towardZero_intCast]

/-- A float is compared by the text of an integer when it stands for this integer and has at most
fifteen digits. -/
theorem comparable_real_eq_toString_iff (x : Binary64) (n : ℤ) :
    (Value.number (.real x)).comparable = toString n ↔ x.value = n ∧ |n| < 10 ^ 15 := by
  by_cases h : ComparedAsInteger (.number (.real x))
  · obtain ⟨⟨m, hm⟩, hsmall⟩ := h
    rw [comparable_of_value_eq hm hsmall, Reading.toString_inj]
    have hbound : |m| < 10 ^ 15 := by
      rw [hm] at hsmall
      exact_mod_cast hsmall
    constructor
    · rintro rfl
      exact ⟨hm, hbound⟩
    · rintro ⟨hn, -⟩
      exact_mod_cast hm.symm.trans hn
  · have htext : (Value.number (.real x)).comparable = x.text := (comparable_eq_plain_iff _).mpr h
    rw [htext]
    refine iff_of_false (Ne.symm (x.toString_ne_text n)) ?_
    rintro ⟨hn, hsmall⟩
    refine h ⟨⟨n, hn⟩, ?_⟩
    rw [hn]
    exact_mod_cast hsmall

end Value

namespace Mismatch

/-- An integer and a float match, whichever of the two is expected, when they are the same number
and it has at most fifteen digits. Two integers match when they are equal. -/
theorem integer_matches_iff {n : ℤ} (hn : Number.InRange n) :
    (∀ x : Binary64,
      (find? (.number (.integer n hn)) (.number (.real x)) = none ↔ x.value = n ∧ |n| < 10 ^ 15) ∧
      (find? (.number (.real x)) (.number (.integer n hn)) = none ↔
        x.value = n ∧ |n| < 10 ^ 15)) ∧
    ∀ {m : ℤ} (hm : Number.InRange m),
      find? (.number (.integer n hn)) (.number (.integer m hm)) = none ↔ n = m := by
  refine ⟨fun x => ⟨?_, ?_⟩, fun hm => ?_⟩
  · rw [find?_eq_none_iff_of_isLeaf rfl Value.noConfusion]
    exact Value.comparable_real_eq_toString_iff x n
  · rw [find?_eq_none_iff_of_isLeaf rfl Value.noConfusion, eq_comm]
    exact Value.comparable_real_eq_toString_iff x n
  · rw [find?_eq_none_iff_of_isLeaf rfl Value.noConfusion, eq_comm]
    exact Reading.toString_inj

/-- The float `1e15`. -/
def quadrillion : Binary64 :=
  ⟨false, 8000000000000000, -3, by decide⟩

/-- Zero matches the float zero of the other sign. The first integer of sixteen digits does not match
the float that is the same number, and not the integer before it. -/
theorem integer_matches_iff_quadrillion :
    (Number.InRange 0 ∧ Number.InRange 1000000000000000) ∧
      find? (.ofInt 0) (.number (.real (.zero true))) = none ∧
      quadrillion.value = (1000000000000000 : ℤ) ∧
      find? (.ofInt 1000000000000000) (.number (.real quadrillion)) ≠ none ∧
      find? (.number (.real quadrillion)) (.ofInt 1000000000000000) ≠ none ∧
      find? (.ofInt 1000000000000000) (.ofInt 999999999999999) ≠ none := by
  have hzero : Number.InRange 0 := by decide
  have hlarge : Number.InRange 1000000000000000 := by decide
  have hvalue : quadrillion.value = (1000000000000000 : ℤ) := by
    simp only [Binary64.value, Binary64.magnitude, quadrillion]
    norm_num
  have hunsigned : (Binary64.zero true).value = (0 : ℤ) := by
    simp [Binary64.value, Binary64.magnitude, Binary64.zero]
  obtain ⟨hreal, hinteger⟩ := integer_matches_iff hlarge
  have hbound : ¬ (quadrillion.value = (1000000000000000 : ℤ) ∧
      |(1000000000000000 : ℤ)| < 10 ^ 15) := by
    decide +kernel
  refine ⟨⟨hzero, hlarge⟩, ?_, hvalue, ?_, ?_, ?_⟩
  · exact ((integer_matches_iff hzero).1 _).1.mpr ⟨hunsigned, by decide⟩
  · exact mt (hreal quadrillion).1.mp hbound
  · exact mt (hreal quadrillion).2.mp hbound
  · exact mt (hinteger (m := 999999999999999) (by decide)).mp (by decide)

end Mismatch

end FlowRunner
