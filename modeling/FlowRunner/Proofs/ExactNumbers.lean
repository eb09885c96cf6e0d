import FlowRunner.Json.Number
import Mathlib.Algebra.Order.Field.Power
import Mathlib.Data.Rat.Floor

/-!
# The exact value of a number

A finite float stands for one rational number, and so does an integer. What is read of a number as
an integer of 64 bits with a sign is that value without its fraction, moved to the nearer end of the
range when it lies outside (`Number.toSigned_eq_clampSigned`).

For an unsigned integer past the range the nearest float is taken, which may be another number, but
never one inside the range (`Real64.exists_ofInt`).
-/

namespace FlowRunner

/-- A rational number without its fraction. -/
def towardZero (q : ℚ) : ℤ :=
  if 0 ≤ q then ⌊q⌋ else ⌈q⌉

theorem towardZero_intCast (n : ℤ) : towardZero n = n := by
  unfold towardZero
  split
  · exact Int.floor_intCast n
  · exact Int.ceil_intCast n

theorem towardZero_of_nonneg {q : ℚ} (h : 0 ≤ q) : towardZero q = ⌊q⌋ :=
  if_pos h

theorem towardZero_neg {q : ℚ} (h : 0 ≤ q) : towardZero (-q) = -⌊q⌋ := by
  unfold towardZero
  split
  · rename_i hneg
    have hzero : q = 0 := le_antisymm (neg_nonneg.mp hneg) h
    rw [hzero, neg_zero, Int.floor_zero, neg_zero]
  · exact Int.ceil_neg

namespace Binary64

/-- The exact value of a float without its sign. -/
def magnitude (x : Binary64) : ℚ :=
  x.mantissa * 2 ^ x.exponent

/-- The exact value of a float. -/
def value (x : Binary64) : ℚ :=
  if x.negative then -x.magnitude else x.magnitude

theorem magnitude_nonneg (x : Binary64) : 0 ≤ x.magnitude := by
  unfold magnitude
  positivity

theorem isZero_iff {x : Binary64} : x.isZero = true ↔ x.value = 0 := by
  have hpower : (2 : ℚ) ^ x.exponent ≠ 0 := zpow_ne_zero _ two_ne_zero
  unfold isZero value magnitude
  split <;> simp [hpower]

theorem floorMagnitude_eq (x : Binary64) : (x.floorMagnitude : ℤ) = ⌊x.magnitude⌋ := by
  unfold floorMagnitude magnitude
  split
  · rename_i hexponent
    obtain ⟨k, hk⟩ := Int.eq_ofNat_of_zero_le hexponent
    rw [hk, Int.toNat_natCast, Nat.shiftLeft_eq, zpow_natCast]
    have hcast : (x.mantissa : ℚ) * 2 ^ k = ((x.mantissa * 2 ^ k : ℕ) : ℤ) := by
      push_cast
      rfl
    rw [hcast, Int.floor_intCast]
  · rename_i hexponent
    obtain ⟨k, hk⟩ := Int.eq_ofNat_of_zero_le (a := -x.exponent) (by omega)
    have hneg : x.exponent = -(k : ℤ) := by omega
    rw [hk, hneg, Int.toNat_natCast, Nat.shiftRight_eq_div_pow, zpow_neg, zpow_natCast,
      ← div_eq_mul_inv]
    have hcast : (x.mantissa : ℚ) / 2 ^ k = ((x.mantissa : ℤ) : ℚ) / ((2 ^ k : ℕ) : ℚ) := by
      push_cast
      rfl
    rw [hcast, Rat.floor_intCast_div_natCast, Int.natCast_ediv]

theorem truncate_eq (x : Binary64) : x.truncate = towardZero x.value := by
  unfold truncate value
  rw [floorMagnitude_eq]
  split
  · exact (towardZero_neg x.magnitude_nonneg).symm
  · exact (towardZero_of_nonneg x.magnitude_nonneg).symm

end Binary64

/-! ## Floats without a fraction -/

namespace Binary64

theorem abs_value (x : Binary64) : |x.value| = x.magnitude := by
  have habs : |x.magnitude| = x.magnitude := abs_of_nonneg x.magnitude_nonneg
  unfold value
  split
  · rw [abs_neg, habs]
  · exact habs

theorem value_eq_intCast_iff (x : Binary64) :
    (∃ n : ℤ, x.value = n) ↔ ∃ n : ℤ, x.magnitude = n := by
  unfold value
  split
  · constructor
    · rintro ⟨n, hn⟩
      exact ⟨-n, by rw [Int.cast_neg, ← hn, neg_neg]⟩
    · rintro ⟨n, hn⟩
      exact ⟨-n, by rw [Int.cast_neg, hn]⟩
  · exact Iff.rfl

/-- A float is an integer when its last bits, which stand behind the point, are zero. -/
theorem isInteger_iff (x : Binary64) : x.isInteger = true ↔ ∃ n : ℤ, x.value = n := by
  rw [x.value_eq_intCast_iff]
  unfold isInteger magnitude
  rw [Bool.or_eq_true, decide_eq_true_iff, beq_iff_eq, Nat.shiftLeft_eq, one_mul]
  by_cases hexponent : 0 ≤ x.exponent
  · obtain ⟨k, hk⟩ := Int.eq_ofNat_of_zero_le hexponent
    refine iff_of_true (.inl hexponent) ⟨(x.mantissa * 2 ^ k : ℕ), ?_⟩
    rw [hk, zpow_natCast]
    push_cast
    rfl
  · obtain ⟨k, hk⟩ := Int.eq_ofNat_of_zero_le (a := -x.exponent) (by omega)
    have hneg : x.exponent = -(k : ℤ) := by omega
    have hpower : (2 : ℚ) ^ k ≠ 0 := by positivity
    rw [hk, Int.toNat_natCast, hneg, zpow_neg, zpow_natCast, ← Nat.dvd_iff_mod_eq_zero]
    have hnonneg : ¬ (0 : ℤ) ≤ -(k : ℤ) := hneg ▸ hexponent
    rw [or_iff_right hnonneg]
    constructor
    · rintro ⟨c, hc⟩
      refine ⟨c, ?_⟩
      rw [hc]
      push_cast
      field_simp
    · rintro ⟨n, hn⟩
      have hproduct : (x.mantissa : ℚ) = n * 2 ^ k := by
        rw [← hn, mul_assoc, inv_mul_cancel₀ hpower, mul_one]
      have hcast : (x.mantissa : ℤ) = n * (2 ^ k : ℕ) := by
        exact_mod_cast hproduct
      exact Int.natCast_dvd_natCast.mp ⟨n, by rw [hcast, mul_comm]⟩

theorem floorMagnitude_lt_iff (x : Binary64) {n : ℕ} :
    x.floorMagnitude < n ↔ |x.value| < n := by
  rw [abs_value, ← Int.ofNat_lt, floorMagnitude_eq, Int.floor_lt]
  rfl

end Binary64

/-! ## Unsigned integers past the signed range -/

theorem roundQuotient_bounds (n d : Nat) :
    n / d ≤ roundQuotient n d ∧ roundQuotient n d ≤ n / d + 1 := by
  unfold roundQuotient
  dsimp only
  split <;> omega

/-- Parts of an integer name a float with that value. -/
theorem Real64.truncate_of_ofParts {m : Nat} {e : ℤ} (h : Binary64.Canonical m e) (he : 0 ≤ e) :
    ∃ r : Binary64, ofParts false m e = .finite r ∧ r.truncate = (m * 2 ^ e.toNat : Nat) := by
  refine ⟨⟨false, m, e, h⟩, dif_pos h, ?_⟩
  simp only [Binary64.truncate, Binary64.floorMagnitude, if_pos he, Nat.shiftLeft_eq]
  rfl

/-- An integer of 64 bits that is too large for a sign is near a float that is too large as well. -/
theorem Real64.exists_ofInt {n : ℤ} (hlow : 9223372036854775808 ≤ n)
    (hhigh : n ≤ 18446744073709551615) :
    ∃ r : Binary64, Real64.ofInt n = .finite r ∧ 9223372036854775808 ≤ r.truncate := by
  obtain ⟨m, rfl⟩ := Int.eq_ofNat_of_zero_le (a := n) (by omega)
  have hbinade : binade m 1 = 63 := by
    have hlog : m.log2 = 63 := (Nat.log2_eq_iff (by omega)).mpr (by omega)
    have hunit : Nat.log2 1 = 0 := by decide
    have hlarge : 1 <<< 63 ≤ m := by
      rw [Nat.shiftLeft_eq]
      omega
    unfold binade
    simp only [hlog, hunit]
    exact if_pos hlarge
  -- The mantissa counts units of `2 ^ 11`, and rounding up may carry it into the next binade.
  obtain ⟨hbelow, habove⟩ := roundQuotient_bounds m 2048
  have hexponent : max (-1074) (binade m 1 - 52) = 11 := by
    rw [hbinade]
    decide
  have hmantissa : Real64.ofInt m =
      if roundQuotient m 2048 = 9007199254740992 then ofParts false 4503599627370496 12
      else ofParts false (roundQuotient m 2048) 11 := by
    unfold Real64.ofInt Real64.ofRatio
    rw [Int.natAbs_natCast, if_neg (by omega), hexponent]
    have hsign : decide ((m : ℤ) < 0) = false := decide_eq_false (by omega)
    rw [hsign]
    rfl
  rw [hmantissa]
  split
  · obtain ⟨r, hr, htruncate⟩ := truncate_of_ofParts (m := 4503599627370496) (e := 12)
      (by decide) (by decide)
    refine ⟨r, hr, ?_⟩
    rw [htruncate]
    decide
  · rename_i hcarry
    have hcanonical : Binary64.Canonical (roundQuotient m 2048) 11 := by
      unfold Binary64.Canonical
      omega
    obtain ⟨r, hr, htruncate⟩ := truncate_of_ofParts hcanonical (by decide)
    refine ⟨r, hr, ?_⟩
    have hunits : Int.toNat 11 = 11 := rfl
    rw [htruncate, hunits]
    omega

namespace Number

/-- The exact value of a number. -/
def value : Number → ℚ
  | integer n _ => n
  | real x => x.value

/-- The signed integer of 64 bits that is read of a number. -/
theorem toSigned_eq_clampSigned (x : Number) : x.toSigned = clampSigned (towardZero x.value) := by
  unfold toSigned
  cases x with
  | integer n hrange =>
    rw [value, towardZero_intCast]
    unfold InRange at hrange
    by_cases hn : n ≤ 9223372036854775807
    · simp only [signed?, if_pos hn]
      unfold clampSigned
      omega
    · obtain ⟨r, hr, hlarge⟩ := Real64.exists_ofInt (n := n) (by omega) hrange.2
      simp only [signed?, if_neg hn, toReal, hr]
      unfold clampSigned
      omega
  | real r =>
    rw [value, ← Binary64.truncate_eq]
    rfl

end Number

end FlowRunner
