import FlowRunner.Flow.Increment
import FlowRunner.Proofs.WrittenNaturals

/-!
# The integer at the start of a text

Where a text starts with an integer, with a sign or without, all of its digits are read and what
comes behind them is ignored. The integer may have any size (`Reading.LeadingInteger`), but it is
read only when it fits 64 bits with a sign (`Increment.leading?_eq_some_iff`). So the text of an
integer is read as this integer or not at all (`Increment.leading?_toString`).

A text that starts with no integer has no digit at its start, or none behind the sign there
(`Reading.Digitless`). Nothing is read of these texts and of those whose integer does not fit, and
of no others (`Increment.leading?_spec`).
-/

namespace FlowRunner

namespace Reading

/-- Digits, at least one, and what comes behind them, which does not go on with a digit. -/
structure DigitRun (digits rest : List Char) : Prop where
  nonempty : digits ≠ []
  isDigit : ∀ c ∈ digits, c.isDigit = true
  ended : ∀ c ∈ rest.head?, c.isDigit = false

/-- The integer that a text starts with, of any size: at most one sign, and then all the digits that
follow. -/
inductive LeadingInteger : List Char → ℤ → Prop
  | bare {digits rest : List Char} (h : DigitRun digits rest) :
    LeadingInteger (digits ++ rest) (Nat.ofDigitChars 10 digits 0)
  | plus {digits rest : List Char} (h : DigitRun digits rest) :
    LeadingInteger ('+' :: (digits ++ rest)) (Nat.ofDigitChars 10 digits 0)
  | minus {digits rest : List Char} (h : DigitRun digits rest) :
    LeadingInteger ('-' :: (digits ++ rest)) (-Nat.ofDigitChars 10 digits 0)

/-- A text does not start with a digit. -/
def NoDigit (s : List Char) : Prop :=
  ∀ c ∈ s.head?, c.isDigit = false

/-- A text starts with no integer: there is no digit at its start, or none behind the sign there. -/
inductive Digitless : List Char → Prop
  | bare {s : List Char} (hsign : ∀ c ∈ s.head?, c ≠ '+' ∧ c ≠ '-') (h : NoDigit s) : Digitless s
  | plus {rest : List Char} (h : NoDigit rest) : Digitless ('+' :: rest)
  | minus {rest : List Char} (h : NoDigit rest) : Digitless ('-' :: rest)

theorem DigitRun.takeWhile_eq {digits rest : List Char} (h : DigitRun digits rest) :
    (digits ++ rest).takeWhile Char.isDigit = digits := by
  have hrest : rest.takeWhile Char.isDigit = [] := by
    cases rest with
    | nil => rfl
    | cons c more => exact List.takeWhile_cons_of_neg (by simp [h.ended c rfl])
  rw [List.takeWhile_append_of_pos h.isDigit, hrest, List.append_nil]

theorem digitRun_takeWhile {s : List Char} (h : s.takeWhile Char.isDigit ≠ []) :
    DigitRun (s.takeWhile Char.isDigit) (s.dropWhile Char.isDigit) where
  nonempty := h
  isDigit := fun _ hc => List.mem_takeWhile_imp hc
  ended := by
    intro c hc
    have hhead := List.head?_dropWhile_not Char.isDigit s
    rw [Option.mem_def.mp hc] at hhead
    simpa using hhead

theorem DigitRun.digits?_eq {digits rest : List Char} (h : DigitRun digits rest) :
    digits? 10 digits = some (Nat.ofDigitChars 10 digits 0) := by
  rw [digits?.eq_2 10 _ h.nonempty, digitsFrom_of_isDigit h.isDigit]

/-- The digits at the start of a text are read when there are any. -/
theorem digits?_takeWhile_eq_some_iff {s : List Char} {n : Nat} :
    digits? 10 (s.takeWhile Char.isDigit) = some n ↔
      ∃ digits rest, s = digits ++ rest ∧ DigitRun digits rest ∧
        n = Nat.ofDigitChars 10 digits 0 := by
  constructor
  · intro h
    have hne : s.takeWhile Char.isDigit ≠ [] := by
      intro hnil
      rw [hnil] at h
      cases h
    have hrun := digitRun_takeWhile hne
    rw [hrun.digits?_eq] at h
    exact ⟨_, _, List.takeWhile_append_dropWhile.symm, hrun, (Option.some.inj h).symm⟩
  · rintro ⟨digits, rest, rfl, hrun, rfl⟩
    rw [hrun.takeWhile_eq, hrun.digits?_eq]

theorem digits?_takeWhile_eq_none_iff {s : List Char} :
    digits? 10 (s.takeWhile Char.isDigit) = none ↔ NoDigit s := by
  cases s with
  | nil => exact ⟨fun _ => nofun, fun _ => rfl⟩
  | cons c rest =>
    have hhead : NoDigit (c :: rest) ↔ c.isDigit = false := by simp [NoDigit]
    rw [hhead]
    cases hdigit : c.isDigit with
    | false =>
      rw [List.takeWhile_cons_of_neg (by simp [hdigit])]
      exact ⟨fun _ => rfl, fun _ => rfl⟩
    | true =>
      have hrun := digitRun_takeWhile (s := c :: rest) (by simp [hdigit])
      rw [hrun.digits?_eq]
      exact ⟨nofun, nofun⟩

/-- Digits alone have no sign. -/
theorem exponent?_of_isDigit {s : List Char} (h : ∀ c ∈ s, c.isDigit = true) :
    exponent? s = (digits? 10 s).map Int.ofNat := by
  refine exponent?.eq_3 s ?_ ?_
  · rintro rest rfl
    cases h '+' List.mem_cons_self
  · rintro rest rfl
    cases h '-' List.mem_cons_self

theorem DigitRun.leadingDigits_eq {digits rest : List Char} (h : DigitRun digits rest) :
    leadingDigits (digits ++ rest) = digits := by
  obtain ⟨c, more, rfl⟩ := List.exists_cons_of_ne_nil h.nonempty
  have hdigit := h.isDigit c List.mem_cons_self
  have hplain : leadingDigits (c :: more ++ rest) = (c :: more ++ rest).takeWhile Char.isDigit := by
    refine leadingDigits.eq_3 _ ?_ ?_
    · rintro tail heq
      cases heq
      cases hdigit
    · rintro tail heq
      cases heq
      cases hdigit
  rw [hplain, h.takeWhile_eq]

theorem exponent?_minus (s : List Char) :
    exponent? ('-' :: s) = (digits? 10 s).map fun n : ℕ => -(n : ℤ) := by
  rw [exponent?]
  cases digits? 10 s <;> rfl

/-- A leading integer is what is read of the digits at the start of a text. -/
theorem exponent?_leadingDigits_eq_some_iff {s : List Char} {n : ℤ} :
    exponent? (leadingDigits s) = some n ↔ LeadingInteger s n := by
  constructor
  · intro h
    unfold leadingDigits at h
    split at h
    · obtain ⟨_, hdigits, rfl⟩ := Option.map_eq_some_iff.mp h
      obtain ⟨digits, more, rfl, hrun, rfl⟩ := digits?_takeWhile_eq_some_iff.mp hdigits
      exact .plus hrun
    · rw [exponent?_minus] at h
      obtain ⟨_, hdigits, rfl⟩ := Option.map_eq_some_iff.mp h
      obtain ⟨digits, more, rfl, hrun, rfl⟩ := digits?_takeWhile_eq_some_iff.mp hdigits
      exact .minus hrun
    · rw [exponent?_of_isDigit fun c hc => List.mem_takeWhile_imp hc] at h
      obtain ⟨_, hdigits, rfl⟩ := Option.map_eq_some_iff.mp h
      obtain ⟨digits, more, rfl, hrun, rfl⟩ := digits?_takeWhile_eq_some_iff.mp hdigits
      exact .bare hrun
  · intro h
    cases h with
    | bare hrun =>
      rw [hrun.leadingDigits_eq, exponent?_of_isDigit hrun.isDigit, hrun.digits?_eq]
      rfl
    | plus hrun => rw [leadingDigits, hrun.takeWhile_eq, exponent?, hrun.digits?_eq]; rfl
    | minus hrun => rw [leadingDigits, hrun.takeWhile_eq, exponent?_minus, hrun.digits?_eq]; rfl

theorem exponent?_leadingDigits_eq_none_iff {s : List Char} :
    exponent? (leadingDigits s) = none ↔ Digitless s := by
  constructor
  · intro h
    unfold leadingDigits at h
    split at h
    · rw [exponent?, Option.map_eq_none_iff, digits?_takeWhile_eq_none_iff] at h
      exact .plus h
    · rw [exponent?_minus, Option.map_eq_none_iff, digits?_takeWhile_eq_none_iff] at h
      exact .minus h
    · rename_i hplus hminus
      rw [exponent?_of_isDigit fun c hc => List.mem_takeWhile_imp hc, Option.map_eq_none_iff,
        digits?_takeWhile_eq_none_iff] at h
      refine .bare (fun c hc => ?_) h
      obtain ⟨rest, rfl⟩ := List.head?_eq_some_iff.mp hc
      exact ⟨fun hsign => hplus rest (hsign ▸ rfl), fun hsign => hminus rest (hsign ▸ rfl)⟩
  · intro h
    cases h with
    | bare hsign h =>
      have hplain : leadingDigits s = s.takeWhile Char.isDigit :=
        leadingDigits.eq_3 s (fun _ hs => (hsign '+' (hs ▸ rfl)).1 rfl)
          fun _ hs => (hsign '-' (hs ▸ rfl)).2 rfl
      rw [hplain, exponent?_of_isDigit fun c hc => List.mem_takeWhile_imp hc,
        digits?_takeWhile_eq_none_iff.mpr h]
      rfl
    | plus h =>
      rw [leadingDigits, exponent?, digits?_takeWhile_eq_none_iff.mpr h]
      rfl
    | minus h =>
      rw [leadingDigits, exponent?_minus, digits?_takeWhile_eq_none_iff.mpr h]
      rfl

/-- A text is without digits at its start exactly when it starts with no integer. -/
theorem digitless_iff {s : List Char} : Digitless s ↔ ∀ n, ¬ LeadingInteger s n := by
  rw [← exponent?_leadingDigits_eq_none_iff, Option.eq_none_iff_forall_ne_some]
  exact forall_congr' fun n => not_congr exponent?_leadingDigits_eq_some_iff

/-- A text starts with one integer at most. -/
theorem LeadingInteger.unique {s : List Char} {m n : ℤ} (hm : LeadingInteger s m)
    (hn : LeadingInteger s n) : m = n := by
  have hread := exponent?_leadingDigits_eq_some_iff.mpr hm
  rw [exponent?_leadingDigits_eq_some_iff.mpr hn] at hread
  exact (Option.some.inj hread).symm

theorem toList_toString_negSucc (m : ℕ) :
    (toString (Int.negSucc m)).toList = '-' :: (toString (m + 1)).toList :=
  String.toList_append

theorem minus_or_isDigit_of_mem_toString {n : ℤ} {c : Char} (h : c ∈ (toString n).toList) :
    c = '-' ∨ c.isDigit = true := by
  cases n with
  | ofNat m => exact .inr (isDigit_of_mem_toString h)
  | negSucc m =>
    rw [toList_toString_negSucc, List.mem_cons] at h
    exact h.imp id isDigit_of_mem_toString

theorem digitRun_toString (m : ℕ) : DigitRun (toString m).toList [] where
  nonempty := toList_toString_ne_nil m
  isDigit := fun _ => isDigit_of_mem_toString
  ended := nofun

/-- The text of an integer starts with the integer. -/
theorem leadingInteger_toString (n : ℤ) : LeadingInteger (toString n).toList n := by
  cases n with
  | ofNat m =>
    have h := LeadingInteger.bare (digitRun_toString m)
    rwa [List.append_nil, ofDigitChars_toString] at h
  | negSucc m =>
    have h := LeadingInteger.minus (digitRun_toString (m + 1))
    rwa [List.append_nil, ofDigitChars_toString, ← toList_toString_negSucc] at h

/-- What is read with a sign is what is read of any size, where it fits. -/
theorem signed?_eq_filter (s : List Char) :
    signed? s = (exponent? s).filter fun n => decide (FitsSigned n) := by
  unfold signed? exponent?
  split <;> rfl

end Reading

namespace Increment

/-- The integer at the start of a text is read exactly when it fits. -/
theorem leading?_eq_some_iff {s : String} {n : ℤ} :
    leading? s = some n ↔
      Reading.LeadingInteger (Text.trim s.toList) n ∧ Reading.FitsSigned n := by
  rw [leading?, Reading.signed?_eq_filter, Option.filter_eq_some_iff,
    Reading.exponent?_leadingDigits_eq_some_iff, decide_eq_true_iff]

/-- The text of an integer is read as this integer, or not at all. -/
theorem leading?_toString (n : ℤ) :
    leading? (toString n) = if Reading.FitsSigned n then some n else none := by
  have htrim : Text.trim (toString n).toList = (toString n).toList := by
    refine Text.trim_eq_self_of_forall fun c hc => ?_
    rcases Reading.minus_or_isDigit_of_mem_toString hc with rfl | hdigit
    · rfl
    · exact Text.isBlank_of_isDigit hdigit
  have hleading := Reading.leadingInteger_toString n
  rw [← htrim] at hleading
  split
  · rename_i hfits
    exact leading?_eq_some_iff.mpr ⟨hleading, hfits⟩
  · rename_i hlarge
    refine Option.eq_none_iff_forall_ne_some.mpr fun m hm => hlarge ?_
    obtain ⟨hother, hfits⟩ := leading?_eq_some_iff.mp hm
    exact hother.unique hleading ▸ hfits

/-- What is read of a text without the blanks around it is the integer at its start, after one sign
at most and up to the first character that is no digit. Nothing is read exactly when there is no
digit at that place or the integer does not fit. -/
theorem leading?_spec (s : String) :
    (∀ n, leading? s = some n ↔
      Reading.LeadingInteger (Text.trim s.toList) n ∧ Reading.FitsSigned n) ∧
    (leading? s = none ↔
      Reading.Digitless (Text.trim s.toList) ∨
        ∃ n, Reading.LeadingInteger (Text.trim s.toList) n ∧ ¬ Reading.FitsSigned n) := by
  refine ⟨fun n => leading?_eq_some_iff, ?_⟩
  rw [Option.eq_none_iff_forall_ne_some]
  constructor
  · intro hnone
    by_cases hless : Reading.Digitless (Text.trim s.toList)
    · exact .inl hless
    · obtain ⟨n, hn⟩ := not_forall_not.mp (mt Reading.digitless_iff.mpr hless)
      exact .inr ⟨n, hn, fun hfits => hnone n (leading?_eq_some_iff.mpr ⟨hn, hfits⟩)⟩
  · rintro hcase n hread
    obtain ⟨hn, hfits⟩ := leading?_eq_some_iff.mp hread
    rcases hcase with hless | ⟨m, hm, hlarge⟩
    · exact Reading.digitless_iff.mp hless n hn
    · exact hlarge (hm.unique hn ▸ hfits)

example : leading? " -9223372036854775808x" = some (-9223372036854775808) ∧
    leading? "+9223372036854775808" = none ∧ leading? "+-1" = none := by
  decide +kernel

end Increment

end FlowRunner
