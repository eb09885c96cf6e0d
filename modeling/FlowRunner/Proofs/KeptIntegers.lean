import FlowRunner.Proofs.ComposedPaths
import FlowRunner.Proofs.ExactNumbers
import FlowRunner.Proofs.HandOver
import FlowRunner.Proofs.LeadingIntegers

/-!
# Values kept as integers

An integer arrives in a response as a number or as the text of its digits. Where a value map keeps it
as an integer, the two come to the same as long as it fits 64 bits with a sign: both are the integer
(`Store.integers_kept_alike_iff`).

Past this range, where a number needs all 64 bits for its magnitude, the text is refused and the key
is absent, but the number is replaced by the largest integer of the range
(`Store.large_integer_replaced`).
-/

namespace FlowRunner

namespace Number

theorem clampSigned_eq_self_iff {n : ℤ} : clampSigned n = n ↔ Reading.FitsSigned n := by
  unfold clampSigned Reading.FitsSigned
  omega

end Number

namespace Conversion

/-- The text of an integer is converted to the integer when it fits, and to nothing otherwise. -/
theorem apply_integer_text (n : ℤ) :
    apply .integer (.text (toString n)) =
      if Reading.FitsSigned n then some (.ofInt n) else none := by
  rw [apply, Increment.ofValue?, Increment.leading?_toString]
  split <;> rfl

/-- A number that is an integer is converted to the integer of the range that is nearest to it. -/
theorem apply_integer_number {n : ℤ} (h : Number.InRange n) :
    apply .integer (.number (.integer n h)) = some (.ofInt (Number.clampSigned n)) := by
  rw [apply, Increment.ofValue?, Number.toSigned_eq_clampSigned, Number.value,
    towardZero_intCast]
  rfl

end Conversion

namespace Store

/-- An integer is kept of the text of its digits when it fits 64 bits with a sign, and nothing is
kept otherwise. Of the integer as a number, the nearest integer that fits is kept. The two are the
same exactly when the integer fits. -/
theorem integers_kept_alike_iff {n : ℤ} (hn : Number.InRange n) {path name : List Char}
    (hpath : '|' ∉ path) (hname : Text.trim name = "int".toList) {written counted : Value}
    (hwritten : (ValueMap.sourceOf written).lookup? path = some (.text (toString n)))
    (hcounted : (ValueMap.sourceOf counted).lookup? path = some (.number (.integer n hn)))
    (store : Store) {entries : List (String × Value)} (hentries : Members.Distinct entries)
    {key : String} (hentry : (key, .text (String.ofList (path ++ '|' :: name))) ∈ entries) :
    (store.extract (.paths entries) written).get? key =
        (if Reading.FitsSigned n then some (.ofInt n) else none) ∧
      (store.extract (.paths entries) counted).get? key =
        some (.ofInt (Number.clampSigned n)) ∧
      ((store.extract (.paths entries) counted).get? key =
          (store.extract (.paths entries) written).get? key ↔ Reading.FitsSigned n) := by
  have hkept : ∀ {result found : Value}, (ValueMap.sourceOf result).lookup? path = some found →
      (store.extract (.paths entries) result).get? key = Conversion.apply .integer found := by
    intro result found hfound
    rw [Placeholder.get?_extract_ofList hentries hentry]
    exact Value.lookup?_converted hpath hname hfound
  rw [hkept hwritten, hkept hcounted, Conversion.apply_integer_text,
    Conversion.apply_integer_number]
  refine ⟨rfl, rfl, ?_⟩
  split
  · rename_i hfits
    rw [Number.clampSigned_eq_self_iff.mpr hfits]
    exact iff_of_true rfl hfits
  · rename_i hlarge
    exact iff_of_false (Option.some_ne_none _) hlarge

/-- An answer with an identifier in it. -/
def answer (id : Value) : Value :=
  .list [.object [("user", .object [("id", id)])]]

/-- Keeps the identifier as an integer. -/
def idEntries : List (String × Value) :=
  [("user", .text "user/id| int")]

/-- The identifier as the value map finds it, before it is converted. -/
theorem lookup?_answer (id : Value) :
    (ValueMap.sourceOf (answer id)).lookup? "user/id".toList = some id := by
  with_unfolding_all rfl

theorem integers_kept_alike_iff_largest :
    Number.InRange 9223372036854775807 ∧ '|' ∉ "user/id".toList ∧
      Text.trim " int".toList = "int".toList ∧ Members.Distinct idEntries ∧
      (empty.extract (.paths idEntries) (answer (.text "9223372036854775807"))).get? "user" =
        some (.ofInt 9223372036854775807) ∧
      (empty.extract (.paths idEntries)
          (answer (.number (.integer 9223372036854775807 (by decide))))).get? "user" =
        some (.ofInt 9223372036854775807) := by
  have hn : Number.InRange 9223372036854775807 := by decide
  have hpath : '|' ∉ "user/id".toList := by decide
  have hname : Text.trim " int".toList = "int".toList := by decide
  have hentries : Members.Distinct idEntries := by decide
  have hentry : ("user", .text (String.ofList ("user/id".toList ++ '|' :: " int".toList))) ∈
      idEntries := List.mem_singleton.mpr rfl
  have hfits : Reading.FitsSigned 9223372036854775807 := by decide
  obtain ⟨hwritten, -, halike⟩ := integers_kept_alike_iff hn hpath hname
    (lookup?_answer (.text "9223372036854775807")) (lookup?_answer _) empty hentries hentry
  rw [if_pos hfits] at hwritten
  exact ⟨hn, hpath, hname, hentries, hwritten, (halike.mpr hfits).trans hwritten⟩

/-- Of `2 ^ 63` nothing is kept where it is a text, and `2 ^ 63 - 1` where it is a number. -/
theorem large_integer_replaced :
    (empty.extract (.paths idEntries) (answer (.text "9223372036854775808"))).contains "user" =
        false ∧
      (empty.extract (.paths idEntries)
          (answer (.number (.integer 9223372036854775808 (by decide))))).get? "user" =
        some (.ofInt 9223372036854775807) := by
  refine ⟨by decide +kernel, ?_⟩
  with_unfolding_all rfl

end Store

end FlowRunner
