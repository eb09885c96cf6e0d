import FlowRunner.Proofs.HandOver
import FlowRunner.Proofs.PlainTexts

/-!
# Placeholders inside other text

A placeholder is recognised in two ways. Where it is the whole text, the key is what is left
without the brackets at both ends. Inside other text it is found by its brackets, from the left and
within one line. The two name the same key, unless the key has a line break in it or ends with a
closing bracket (`Placeholder.readings_agree_iff`):

* a key with a line break is not found inside other text, and the text stays as it is;
* of a key with a closing bracket at its end, that bracket is left outside.
-/

namespace FlowRunner

theorem prefix_append_cons_iff {α : Type} {part before after : List α} {sep : α} (h : sep ∉ part) :
    part <+: before ++ sep :: after ↔ part <+: before := by
  induction before generalizing part with
  | nil =>
    cases part with
    | nil => simp
    | cons a rest =>
      have hne : a ≠ sep := (List.ne_of_not_mem_cons h).symm
      simp [List.cons_prefix_cons, hne]
  | cons b more ih =>
    cases part with
    | nil => simp
    | cons a rest =>
      rw [List.cons_append, List.cons_prefix_cons, List.cons_prefix_cons,
        ih (List.not_mem_of_not_mem_cons h)]

/-- A part without the separator stands on one side of it. -/
theorem infix_append_cons_iff {α : Type} {part before after : List α} {sep : α} (h : sep ∉ part)
    (hne : part ≠ []) : part <:+: before ++ sep :: after ↔ part <:+: before ∨ part <:+: after := by
  induction before with
  | nil =>
    have hfirst : ¬ part <+: sep :: after := by
      have hstarts : part <+: [] ++ sep :: after ↔ part <+: [] := prefix_append_cons_iff h
      rw [List.nil_append, List.prefix_nil] at hstarts
      exact fun hpart => hne (hstarts.mp hpart)
    simp [List.infix_cons_iff, hfirst, hne]
  | cons b more ih =>
    rw [List.cons_append, List.infix_cons_iff, List.infix_cons_iff, ih, ← List.cons_append,
      prefix_append_cons_iff h, or_assoc]

namespace Placeholder

variable {key : List Char}

/-! ## Keys with a line break -/

theorem closing_of_newline (hunclosed : ¬ ['>', '>'] <:+: key) (hline : '\n' ∈ key)
    (rest : List Char) : closing (key ++ rest) = none := by
  induction key with
  | nil => cases hline
  | cons c more ih =>
    by_cases hc : c = '\n'
    · rw [hc, List.cons_append, closing, if_pos rfl]
      rintro tail hbracket
      cases hbracket
    · have hmem : '\n' ∈ more := (List.mem_cons.mp hline).resolve_left (Ne.symm hc)
      have hmore : closing (more ++ rest) = none :=
        ih (fun hin => hunclosed (List.infix_cons hin)) hmem
      rw [List.cons_append, closing, if_neg hc, hmore]
      · rfl
      · rintro tail rfl htail
        obtain ⟨d, more, rfl⟩ := List.exists_cons_of_ne_nil (List.ne_nil_of_mem hmem)
        obtain ⟨rfl, -⟩ := List.cons.inj htail
        exact hunclosed ⟨[], more, rfl⟩

theorem keyAfter_of_newline (hunclosed : ¬ ['>', '>'] <:+: key) (hline : '\n' ∈ key)
    (rest : List Char) : keyAfter (key ++ rest) = none := by
  cases key with
  | nil => cases hline
  | cons c more =>
    rw [List.cons_append, keyAfter]
    by_cases hc : c = '\n'
    · rw [if_pos hc]
    · have hmem : '\n' ∈ more := (List.mem_cons.mp hline).resolve_left (Ne.symm hc)
      rw [if_neg hc, closing_of_newline (fun hin => hunclosed (List.infix_cons hin)) hmem]
      rfl

/-- Closing brackets open nothing. -/
theorem unopened_append_closing (h : ¬ ['<', '<'] <:+: key) :
    ¬ ['<', '<'] <:+: key ++ ['>', '>'] := by
  rw [infix_append_cons_iff (by decide) (by decide), not_or]
  exact ⟨h, by decide⟩

/-- A placeholder whose key has a line break is left as it is inside other text. -/
theorem substitute_token_of_newline (hkey : Nameable key) (hline : '\n' ∈ key) (store : Store) :
    substitute store (token key) = token key := by
  have hopen : ∀ {more}, ¬ ['>', '>'] <:+: more → '\n' ∈ more →
      substitute store ('<' :: '<' :: (more ++ ['>', '>'])) =
        '<' :: substitute store ('<' :: (more ++ ['>', '>'])) := by
    intro more hunclosed hmem
    rw [substitute, keyAfter_of_newline hunclosed hmem]
  have htoken : token key = '<' :: '<' :: (key ++ ['>', '>']) := by
    simp [token]
  rw [htoken, hopen hkey.unclosed hline]
  have hunopened := unopened_append_closing hkey.unopened
  -- A bracket at the start of the key opens once more, with the bracket before it.
  by_cases hstart : ['<'] <+: key
  · obtain ⟨more, rfl⟩ := hstart
    have hmem : '\n' ∈ more := by simpa using hline
    have hunclosed : ¬ ['>', '>'] <:+: more := fun hin => hkey.unclosed (List.infix_cons hin)
    have hrest : substitute store ('<' :: (more ++ ['>', '>'])) = '<' :: (more ++ ['>', '>']) :=
      substitute_of_unopened hunopened store
    rw [List.singleton_append, List.cons_append, hopen hunclosed hmem, hrest]
  · have hfirst : ¬ ['<', '<'] <:+: '<' :: (key ++ ['>', '>']) := by
      rw [List.infix_cons_iff, List.cons_prefix_cons, prefix_append_cons_iff (by decide)]
      rintro (⟨-, hprefix⟩ | hin)
      · exact hstart hprefix
      · exact hunopened hin
    rw [substitute_of_unopened hfirst]

/-! ## Keys that end with a bracket -/

/-- A closing bracket at the end of a key is left outside the placeholder inside other text. -/
theorem substitute_token_of_bracket (hkey : Nameable (key ++ ['>'])) (hne : key ≠ [])
    (hline : '\n' ∉ key) (store : Store) :
    substitute store (token (key ++ ['>'])) =
      (Value.embedded (store.get? (String.ofList key))).toList ++ ['>'] := by
  have hkey' : Delimited key := by
    constructor
    · exact hne
    · intro hin
      exact hkey.unclosed (hin.trans (List.prefix_append key ['>']).isInfix)
    · exact hline
    · rintro ⟨before, rfl⟩
      rw [List.append_assoc] at hkey
      exact absurd (List.suffix_append before ['>', '>']).isInfix hkey.unclosed
  have htoken : token (key ++ ['>']) = token key ++ ['>'] := by
    simp [token]
  have hrest : substitute store ['>'] = ['>'] :=
    substitute_of_unopened (by decide) store
  rw [htoken, substitute_token hkey', hrest]

/-! ## Both readings -/

/-- Behind a literal a placeholder is read as one inside other text. -/
theorem resolveText_append_token {literal key : String} (hliteral : literal ≠ "")
    (hunopened : '<' ∉ literal.toList) (hword : ¬ Increment.word <:+: literal.toList)
    (hplain : ¬ Increment.word <:+: key.toList) (store : Store) :
    resolveText store (literal ++ ("<<" ++ key ++ ">>")) =
      .ok (.text (literal ++ String.ofList (substitute store (token key.toList)))) := by
  have htext : (literal ++ ("<<" ++ key ++ ">>")).toList =
      literal.toList ++ token key.toList := by
    simp [token]
  have hnone : ¬ Increment.word <:+: literal.toList ++ token key.toList := by
    have hafter : ¬ Increment.word <:+: '<' :: (key.toList ++ ['>', '>']) := by
      intro hin
      rw [← Increment.infix_token_iff] at hplain
      exact hplain (hin.trans ⟨['<'], [], by simp [token]⟩)
    have hsplit : literal.toList ++ token key.toList =
        literal.toList ++ '<' :: '<' :: (key.toList ++ ['>', '>']) := by
      simp [token]
    rw [hsplit, infix_append_cons_iff (by decide) (by decide), not_or]
    exact ⟨hword, hafter⟩
  have hwhole : wholeKey? (literal.toList ++ token key.toList) = none := by
    refine Option.eq_none_iff_forall_ne_some.mpr fun other hother => ?_
    obtain ⟨heq, -⟩ := wholeKey?_eq_some_iff.mp hother
    obtain ⟨c, more, hc⟩ := List.exists_cons_of_ne_nil (mt String.toList_eq_nil_iff.mp hliteral)
    rw [hc] at heq hunopened
    obtain ⟨rfl, -⟩ := List.cons.inj heq
    exact hunopened List.mem_cons_self
  have hseparate : ¬ ['<', '<'] <:+: literal.toList :=
    fun hin => hunopened (hin.subset List.mem_cons_self)
  have hfinish : ¬ ['<'] <:+ literal.toList :=
    fun hend => hunopened (hend.subset List.mem_cons_self)
  rw [resolveText_eq_resolvePlain (htext ▸ hnone), htext, resolvePlain, hwhole,
    substitute_literal hseparate hfinish, ← String.ofList_toList (s := literal)]
  simp

/-- A placeholder that is the whole text stands for the value under its key. Inside other text,
where that value's text is put in, it names the same key exactly when the key is on one line and
does not end with a closing bracket, unless it is nothing else. -/
theorem readings_agree_iff {key : String} (hkey : Nameable key.toList)
    (hplain : ¬ Increment.word <:+: key.toList) :
    (∀ store, resolveText store ("<<" ++ key ++ ">>") = .ok ((store.get? key).getD .null)) ∧
      ((∀ (store : Store) (literal : String), literal ≠ "" → '<' ∉ literal.toList →
          ¬ Increment.word <:+: literal.toList →
          resolveText store (literal ++ ("<<" ++ key ++ ">>")) =
            .ok (.text (literal ++ Value.embedded (store.get? key)))) ↔
        '\n' ∉ key.toList ∧ (['>'] <:+ key.toList → key = ">")) := by
  refine ⟨resolveText_token hkey hplain, ?_⟩
  constructor
  · intro hagree
    -- Nothing is stored, so the literal alone would have to be left.
    have halone : ∀ rest, substitute Store.empty (token key.toList) = rest → rest = [] := by
      rintro rest rfl
      have hempty := hagree Store.empty "-" (by decide) (by decide) (by decide)
      rw [resolveText_append_token (by decide) (by decide) (by decide) hplain] at hempty
      have hchars := congrArg String.toList (Value.text.inj (Except.ok.inj hempty))
      rw [String.toList_append, String.toList_append, List.append_cancel_left_eq,
        String.toList_ofList] at hchars
      exact hchars
    have hline : '\n' ∉ key.toList := by
      intro hmem
      have htoken := halone _ (substitute_token_of_newline hkey hmem Store.empty)
      simp [token] at htoken
    refine ⟨hline, ?_⟩
    rintro ⟨before, hbefore⟩
    by_contra hother
    have hne : before ≠ [] := by
      rintro rfl
      exact hother (String.toList_inj.mp hbefore.symm)
    rw [← hbefore] at hkey hline halone
    have hstart : '\n' ∉ before := fun hmem => hline (List.mem_append_left _ hmem)
    have hbracket := halone _ (substitute_token_of_bracket hkey hne hstart Store.empty)
    simp at hbracket
  · rintro ⟨hline, hfinish⟩ store literal hliteral hunopened hword
    have hdelimited : Delimited key.toList := by
      constructor
      · exact hkey.nonempty
      · exact hkey.unclosed
      · exact hline
      · intro hend
        rw [hfinish hend]
        rfl
    have htoken := substitute_token hdelimited store []
    rw [List.append_nil, substitute, List.append_nil, String.ofList_toList] at htoken
    rw [resolveText_append_token hliteral hunopened hword hplain, htoken, String.ofList_toList]

/-- A key with brackets in it, one of them at its start. -/
def angled : Store :=
  .ofPairs [("<a>b<", .text "<<x>>"), ("x", .null)]

theorem readings_agree_iff_angled :
    Nameable "<a>b<".toList ∧ ¬ Increment.word <:+: "<a>b<".toList ∧
      resolveText angled "<<<a>b<>>" = .ok (.text "<<x>>") ∧
      resolveText angled "a> <<<a>b<>>" = .ok (.text "a> <<x>>") := by
  have hkey : Nameable "<a>b<".toList := by decide
  have hplain : ¬ Increment.word <:+: "<a>b<".toList := by decide
  obtain ⟨halone, hagree⟩ := readings_agree_iff hkey hplain
  refine ⟨hkey, hplain, halone angled, ?_⟩
  exact hagree.mpr (by decide) angled "a> " (by decide) (by decide) (by decide)

/-- Keys that are not read inside other text. -/
def unread : Store :=
  .ofPairs [("a", .text "other"), ("a>", .text "kept"), ("a\nb", .text "kept")]

/-- A key is read where its placeholder is the whole text, but not behind a literal, when it has a
line break in it or ends with a bracket. -/
theorem unread_keys :
    (∀ key ∈ ["a>", "a\nb"], Nameable key.toList ∧ ¬ Increment.word <:+: key.toList ∧
        (resolveText unread ("<<" ++ key ++ ">>")).toOption.bind Value.asText? = some "kept") ∧
      (resolveText unread "p<<a>>>").toOption.bind Value.asText? = some "pother>" ∧
      (resolveText unread "p<<a\nb>>").toOption.bind Value.asText? = some "p<<a\nb>>" := by
  decide +kernel

end Placeholder

end FlowRunner
