import FlowRunner.Proofs.ExactNumbers
import FlowRunner.Proofs.LeadingIntegers
import FlowRunner.Proofs.MismatchPaths

/-!
# Values kept as texts

A scalar has one text where it is kept as a text or put into other text, and another one by which it
is compared with an expectation. The two are the same, except for floats without a fraction that
have at most fifteen digits: these are compared as integers, but keep their fraction in every other
text (`Value.comparable_eq_plain_iff`).

So a scalar that was kept as a text matches the same scalar in another response, whichever of the
two is expected, unless it is such a float (`Mismatch.kept_text_matches_iff`).
-/

namespace FlowRunner

/-! ## The texts of numbers -/

namespace Binary64

/-- No float is written like an integer: there is a point, or an exponent. -/
theorem exists_mem_decimalText (digits : List Char) (place : ℤ) :
    '.' ∈ decimalText digits place ∨ 'e' ∈ decimalText digits place := by
  unfold decimalText
  dsimp only
  split
  · left
    split <;> simp
  · split
    · left
      simp
    · right
      simp

theorem exists_mem_text (x : Binary64) : '.' ∈ x.text.toList ∨ 'e' ∈ x.text.toList := by
  have hmagnitude : ∀ {s : List Char}, '.' ∈ s ∨ 'e' ∈ s →
      '.' ∈ (if x.negative then '-' :: s else s) ∨ 'e' ∈ (if x.negative then '-' :: s else s) := by
    intro s hs
    split
    · exact hs.imp (List.mem_cons_of_mem _) (List.mem_cons_of_mem _)
    · exact hs
  rw [text, String.toList_ofList, textChars]
  apply hmagnitude
  split
  · exact .inl (by decide)
  · exact exists_mem_decimalText _ _

theorem toString_ne_text (n : ℤ) (x : Binary64) : toString n ≠ x.text := by
  intro heq
  have hchars : ∀ c ∈ x.text.toList, c = '-' ∨ c.isDigit = true := by
    rw [← heq]
    exact fun c => Reading.minus_or_isDigit_of_mem_toString
  rcases x.exists_mem_text with hpoint | hexponent
  · exact absurd (hchars '.' hpoint) (by decide)
  · exact absurd (hchars 'e' hexponent) (by decide)

end Binary64

namespace Value

/-- A float without a fraction that has at most fifteen digits. -/
def ComparedAsInteger : Value → Prop
  | .number (.real x) => (∃ n : ℤ, x.value = n) ∧ |x.value| < 10 ^ 15
  | _ => False

theorem comparedAsInteger_real_iff (x : Binary64) :
    ComparedAsInteger (.number (.real x)) ↔
      (x.isInteger && x.floorMagnitude < 1000000000000000) = true := by
  have hbound : ((1000000000000000 : ℕ) : ℚ) = 10 ^ 15 := by norm_num
  rw [ComparedAsInteger, Bool.and_eq_true, x.isInteger_iff, decide_eq_true_iff,
    x.floorMagnitude_lt_iff, hbound]

instance : DecidablePred ComparedAsInteger
  | .number (.real x) => decidable_of_iff' _ (comparedAsInteger_real_iff x)
  | .number (.integer _ _) => inferInstanceAs (Decidable False)
  | .null => inferInstanceAs (Decidable False)
  | .bool _ => inferInstanceAs (Decidable False)
  | .text _ => inferInstanceAs (Decidable False)
  | .list _ => inferInstanceAs (Decidable False)
  | .object _ => inferInstanceAs (Decidable False)

/-- The text by which a value is compared is its text in other text, but for some floats. -/
theorem comparable_eq_plain_iff (v : Value) :
    v.comparable = v.plain ↔ ¬ v.ComparedAsInteger := by
  cases v with
  | number n =>
    cases n with
    | integer n hrange => exact iff_of_true rfl not_false
    | real x =>
      rw [comparedAsInteger_real_iff, comparable]
      split
      · rename_i hwhole
        exact iff_of_false (Binary64.toString_ne_text _ x) (not_not_intro hwhole)
      · rename_i hfraction
        exact iff_of_true rfl hfraction
  | null => exact iff_of_true rfl not_false
  | bool b => exact iff_of_true rfl not_false
  | text s => exact iff_of_true rfl not_false
  | list items => exact iff_of_true rfl not_false
  | object members => exact iff_of_true rfl not_false

theorem lookup?_text_conversion {path name : List Char} (h : '|' ∉ path)
    (hname : Text.trim name = "str".toList) {v found : Value}
    (hfound : v.lookup? path = some found) : v.lookup? (path ++ '|' :: name) = some (.text found.plain) :=
  lookup?_converted h hname hfound

end Value

namespace Mismatch

/-- An expected scalar that is not null is met by what is compared by the same text. -/
theorem find?_eq_none_iff_of_isLeaf {expected actual : Value} (hleaf : expected.isLeaf = true)
    (hnull : expected ≠ .null) :
    find? expected actual = none ↔ actual.comparable = expected.comparable := by
  have hsome : (∃ v ∈ some actual, v.comparable = expected.comparable) ↔
      actual.comparable = expected.comparable := by
    constructor
    · rintro ⟨v, hv, heq⟩
      cases hv
      exact heq
    · exact fun heq => ⟨actual, rfl, heq⟩
  rw [find?, below?_eq_none_iff hleaf]
  cases expected with
  | null => exact absurd rfl hnull
  | _ => exact hsome

/-- What a value map keeps of a scalar as a text is what stands for the scalar inside other text. It
matches the same scalar, whichever of the two is expected, unless this is a float without a fraction
that has at most fifteen digits. -/
theorem kept_text_matches_iff {v : Value} (hleaf : v.isLeaf = true) (hnull : v ≠ .null)
    {path name : List Char} (hpath : '|' ∉ path) (hname : Text.trim name = "str".toList)
    {result : Value} (hread : (ValueMap.sourceOf result).lookup? path = some v) :
    (∀ (store : Store) entries key, Members.Distinct entries →
        (key, Value.text (String.ofList (path ++ '|' :: name))) ∈ entries →
          (store.extract (.paths entries) result).get? key =
            some (.text (Value.embedded (some v)))) ∧
      (find? (.text (Value.embedded (some v))) v = none ↔ ¬ v.ComparedAsInteger) ∧
      (find? v (.text (Value.embedded (some v))) = none ↔ ¬ v.ComparedAsInteger) := by
  have hembedded : Value.embedded (some v) = v.plain := by
    cases v with
    | null => exact absurd rfl hnull
    | _ => rfl
  rw [hembedded]
  refine ⟨?_, ?_, ?_⟩
  · intro store entries key hentries hentry
    rw [Placeholder.get?_extract_paths hentries hentry, ValueMap.entryValue?,
      String.toList_ofList]
    exact Value.lookup?_text_conversion hpath hname hread
  · rw [← Value.comparable_eq_plain_iff]
    exact find?_eq_none_iff_of_isLeaf rfl Value.noConfusion
  · rw [← Value.comparable_eq_plain_iff]
    exact (find?_eq_none_iff_of_isLeaf hleaf hnull).trans eq_comm

/-- The float `2.5`. -/
def price : Value :=
  .number (.real ⟨false, 5629499534213120, -51, by decide⟩)

/-- The float `1.0`. -/
def unit : Value :=
  .number (.real ⟨false, 4503599627370496, -52, by decide⟩)

/-- A response with two floats in it. -/
def offer : Value :=
  .list [.object [("price", price), ("unit", unit)]]

theorem kept_text_matches_price :
    (Store.empty.extract (.paths [("kept", .text "price| str")]) offer).get? "kept" =
        some (.text "2.5") ∧
      find? (.text "2.5") price = none ∧ find? price (.text "2.5") = none := by
  have hplain : ∀ turn ∈ [Turn.key "price"], turn.Plain := by decide +kernel
  have hread : (ValueMap.sourceOf offer).lookup? "price".toList = some price :=
    Value.lookup?_text (List.cons_ne_nil _ _) hplain _
  have hname : Text.trim " str".toList = "str".toList := by decide
  have htext : Value.embedded (some price) = "2.5" := by decide +kernel
  have hnull : price ≠ .null := by
    intro heq
    cases heq
  have hfraction : ¬ price.ComparedAsInteger := by decide +kernel
  obtain ⟨hkept, hexpected, hactual⟩ :=
    kept_text_matches_iff rfl hnull (by decide) hname hread
  rw [htext] at hkept hexpected hactual
  refine ⟨?_, hexpected.mpr hfraction, hactual.mpr hfraction⟩
  refine hkept Store.empty _ "kept" (by decide) ?_
  exact List.mem_singleton.mpr rfl

/-- The text that is kept of `1.0` does not match it, in either direction. -/
theorem kept_text_of_unit_mismatched :
    ((Store.empty.extract (.paths [("kept", .text "unit|str")]) offer).get? "kept").bind
        Value.asText? = some "1.0" ∧
      Value.embedded (some unit) = "1.0" ∧
      find? (.text "1.0") unit = some ⟨"response", "1.0", "1"⟩ ∧
      find? unit (.text "1.0") = some ⟨"response", "1", "1.0"⟩ := by
  decide +kernel

end Mismatch

end FlowRunner
