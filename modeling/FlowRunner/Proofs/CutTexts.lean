import FlowRunner.Text.Blank
import FlowRunner.Text.Cut
import Mathlib.Data.List.TakeWhile

/-!
# Texts that are put together

What a text is split into, and what is trimmed of it, when it is known from which pieces it is made.

* `Text.splitOn_append`: a separator between two texts parts what each of them is split into.
* `Text.splitOn_join`: pieces without the separator are what their join is split into.
* `Text.exists_trim_eq` and `Text.trim_append`: blanks are taken off both ends, and nothing else.
-/

namespace FlowRunner.Text

theorem splitOn_of_notMem {sep : Char} {s : List Char} (h : sep ∉ s) : splitOn sep s = [s] := by
  induction s with
  | nil => rfl
  | cons c rest ih =>
    obtain ⟨hc, hrest⟩ := not_or.mp (mt List.mem_cons.mpr h)
    rw [splitOn, if_neg (Ne.symm hc), ih hrest]

theorem splitOn_append (sep : Char) (before after : List Char) :
    splitOn sep (before ++ sep :: after) = splitOn sep before ++ splitOn sep after := by
  induction before with
  | nil => simp [splitOn]
  | cons c more ih =>
    rw [List.cons_append]
    by_cases hc : c = sep
    · rw [splitOn, if_pos hc, ih, splitOn, if_pos hc, List.cons_append]
    · obtain ⟨piece, pieces, hmore⟩ := List.exists_cons_of_ne_nil (splitOn_ne_nil sep more)
      rw [splitOn, if_neg hc, ih, splitOn, if_neg hc, hmore]
      rfl

theorem splitOn_append_cons {sep : Char} {piece : List Char} (h : sep ∉ piece) (rest : List Char) :
    splitOn sep (piece ++ sep :: rest) = piece :: splitOn sep rest := by
  rw [splitOn_append, splitOn_of_notMem h, List.singleton_append]

theorem notMem_of_mem_splitOn {sep : Char} {s piece : List Char} (h : piece ∈ splitOn sep s) :
    sep ∉ piece := by
  induction s generalizing piece with
  | nil =>
    rw [splitOn, List.mem_singleton] at h
    rw [h]
    exact List.not_mem_nil
  | cons c rest ih =>
    rw [splitOn] at h
    split at h
    · rcases List.mem_cons.mp h with rfl | hmem
      · exact List.not_mem_nil
      · exact ih hmem
    · rename_i hc
      obtain ⟨first, pieces, hrest⟩ := List.exists_cons_of_ne_nil (splitOn_ne_nil sep rest)
      rw [hrest] at h ih
      rcases List.mem_cons.mp h with rfl | hmem
      · rw [List.mem_cons, not_or]
        exact ⟨Ne.symm hc, ih List.mem_cons_self⟩
      · exact ih (List.mem_cons_of_mem _ hmem)

theorem join_eq_intercalate (sep : List Char) (pieces : List (List Char)) :
    join sep pieces = sep.intercalate pieces := by
  induction pieces with
  | nil => rfl
  | cons piece rest ih =>
    cases rest with
    | nil => simp [join]
    | cons next more => rw [join, ih, List.intercalate_cons_cons]

theorem join_cons (sep piece : List Char) {rest : List (List Char)} (h : rest ≠ []) :
    join sep (piece :: rest) = piece ++ sep ++ join sep rest := by
  cases rest with
  | nil => exact absurd rfl h
  | cons next more => rfl

/-- Pieces without the separator are what their join is split into. -/
theorem splitOn_join {sep : Char} {pieces : List (List Char)} (hne : pieces ≠ [])
    (h : ∀ piece ∈ pieces, sep ∉ piece) : splitOn sep (join [sep] pieces) = pieces := by
  induction pieces with
  | nil => exact absurd rfl hne
  | cons piece rest ih =>
    obtain ⟨hpiece, hrest⟩ := List.forall_mem_cons.mp h
    by_cases hlast : rest = []
    · subst hlast
      exact splitOn_of_notMem hpiece
    · rw [join_cons _ _ hlast, List.append_assoc, List.singleton_append,
        splitOn_append_cons hpiece, ih hlast hrest]

theorem notMem_join {c sep : Char} (hsep : c ≠ sep) {pieces : List (List Char)}
    (h : ∀ piece ∈ pieces, c ∉ piece) : c ∉ join [sep] pieces := by
  induction pieces with
  | nil => exact List.not_mem_nil
  | cons piece rest ih =>
    obtain ⟨hpiece, hrest⟩ := List.forall_mem_cons.mp h
    by_cases hlast : rest = []
    · subst hlast
      exact hpiece
    · rw [join_cons _ _ hlast]
      simp [hpiece, hsep, ih hrest]

/-! ## Blanks at the ends -/

theorem trimEnd_eq_self_iff {s : List Char} :
    trimEnd s = s ↔ ∀ c ∈ s.getLast?, isBlank c = false := by
  rw [trimEnd, List.reverse_eq_iff, List.dropWhile_eq_self_iff, ← List.head?_reverse]
  cases s.reverse <;> simp

/-- A text is trimmed when there is no blank at either end. -/
theorem trim_eq_self_iff {s : List Char} :
    trim s = s ↔
      (∀ c ∈ s.head?, isBlank c = false) ∧ ∀ c ∈ s.getLast?, isBlank c = false := by
  have hstart : s.dropWhile isBlank = s ↔ ∀ c ∈ s.head?, isBlank c = false := by
    rw [List.dropWhile_eq_self_iff]
    cases s <;> simp
  rw [trim, ← hstart, ← trimEnd_eq_self_iff]
  constructor
  · intro h
    have hlength := congrArg List.length h
    have hend : (trimEnd (s.dropWhile isBlank)).length ≤ (s.dropWhile isBlank).length := by
      rw [trimEnd, List.length_reverse]
      exact (List.dropWhile_sublist _).length_le.trans (Nat.le_of_eq List.length_reverse)
    have hwhole : s.dropWhile isBlank = s :=
      (List.dropWhile_suffix _).eq_of_length_le (hlength ▸ hend)
    rw [hwhole] at h
    exact ⟨hwhole, h⟩
  · rintro ⟨hwhole, h⟩
    rw [hwhole, h]

theorem trim_eq_self_of_forall {s : List Char} (h : ∀ c ∈ s, isBlank c = false) : trim s = s :=
  trim_eq_self_iff.mpr
    ⟨fun c hc => h c (List.mem_of_head? hc), fun c hc => h c (List.mem_of_getLast? hc)⟩

/-- What is trimmed off a text is blank. -/
theorem exists_trim_eq (s : List Char) :
    ∃ left right, s = left ++ trim s ++ right ∧ (∀ c ∈ left, isBlank c = true) ∧
      ∀ c ∈ right, isBlank c = true := by
  let right := ((s.dropWhile isBlank).reverse.takeWhile isBlank).reverse
  have hend : s.dropWhile isBlank = trim s ++ right := by
    rw [trim, trimEnd, ← List.reverse_append, List.takeWhile_append_dropWhile, List.reverse_reverse]
  have hright : ∀ c ∈ right, isBlank c = true :=
    fun c hc => List.mem_takeWhile_imp (List.mem_reverse.mp hc)
  refine ⟨s.takeWhile isBlank, right, ?_, fun c hc => List.mem_takeWhile_imp hc, hright⟩
  rw [List.append_assoc, ← hend, List.takeWhile_append_dropWhile]

theorem trimEnd_append {core right : List Char} (hcore : trimEnd core = core)
    (hright : ∀ c ∈ right, isBlank c = true) : trimEnd (core ++ right) = core := by
  have hreverse : ∀ c ∈ right.reverse, isBlank c = true :=
    fun c hc => hright c (List.mem_reverse.mp hc)
  rw [trimEnd, List.reverse_append, List.dropWhile_append_of_pos hreverse]
  exact hcore

/-- Blanks around a trimmed text are taken off. -/
theorem trim_append {left core right : List Char} (hleft : ∀ c ∈ left, isBlank c = true)
    (hright : ∀ c ∈ right, isBlank c = true) (hcore : trim core = core) (hne : core ≠ []) :
    trim (left ++ core ++ right) = core := by
  obtain ⟨hhead, hlast⟩ := trim_eq_self_iff.mp hcore
  obtain ⟨c, more, rfl⟩ := List.exists_cons_of_ne_nil hne
  have hstart : (left ++ (c :: more) ++ right).dropWhile isBlank = c :: more ++ right := by
    rw [List.append_assoc, List.dropWhile_append_of_pos hleft, List.cons_append,
      List.dropWhile_cons_of_neg (by simp [hhead c rfl])]
  rw [trim, hstart, trimEnd_append (trimEnd_eq_self_iff.mpr hlast) hright]

theorem isDigit_iff_toNat {c : Char} : c.isDigit = true ↔ 48 ≤ c.toNat ∧ c.toNat ≤ 57 := by
  simp only [Char.isDigit, Bool.and_eq_true, decide_eq_true_eq, UInt32.le_iff_toNat_le]
  exact Iff.rfl

theorem isBlank_of_isDigit {c : Char} (h : c.isDigit = true) : isBlank c = false := by
  have hrange := isDigit_iff_toNat.mp h
  simp only [isBlank, Bool.or_eq_false_iff, Bool.and_eq_false_iff, decide_eq_false_iff_not,
    beq_eq_false_iff_ne]
  omega

end FlowRunner.Text
