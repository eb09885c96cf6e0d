import FlowRunner.Proofs.Placeholders

/-!
# Templates

A template is a text made of literals with placeholders between them. Where no literal runs into
the brackets next to it, resolving a template puts the text of the stored value in the place of
each placeholder and keeps the literals as they are. The one exception is a placeholder that stands
alone, which gives the stored value itself (`Placeholder.resolveText_template`).

What is put in for a placeholder is part of the result as it is, whatever brackets it holds.
-/

namespace FlowRunner

/-- Literals with keys between them: the first literal, and then each key with the literal behind
it. -/
structure Template where
  start : String
  holes : List (String × String)

/-- A key that is all there is between opening brackets and the first closing ones on their line: no
bracket of its own takes part in closing it, unless it is nothing but that bracket. -/
structure Placeholder.Delimited (key : List Char) : Prop where
  nonempty : key ≠ []
  unclosed : ¬ ['>', '>'] <:+: key
  oneLine : '\n' ∉ key
  finish : ['>'] <:+ key → key = ['>']

namespace Template

/-- The text of a template with something in the place of each key. -/
def fill (t : Template) (content : String → String) : String :=
  t.start ++ String.join (t.holes.map fun hole => content hole.1 ++ hole.2)

/-- The text of a template as it is written, with each key between brackets. -/
def text (t : Template) : String :=
  t.fill fun key => "<<" ++ key ++ ">>"

/-- The text of a template with the stored values in the place of their keys. -/
def filled (t : Template) (store : Store) : String :=
  t.fill fun key => Value.embedded (store.get? key)

/-- A literal can stand between placeholders: its brackets are no part of theirs. -/
@[mk_iff]
structure Separate (literal : List Char) : Prop where
  unopened : ¬ ['<', '<'] <:+: literal
  finish : ¬ ['<'] <:+ literal
  start : ¬ ['>'] <+: literal

/-- A key can stand in a placeholder inside other text. -/
@[mk_iff]
structure Fits (key : List Char) : Prop where
  nonempty : key ≠ []
  plain : ∀ c ∈ key, c ≠ '<' ∧ c ≠ '>' ∧ c ≠ '\n'

/-- The literals and the keys of a template can be told apart. -/
@[mk_iff]
structure WellFormed (t : Template) : Prop where
  start : Separate t.start.toList
  keys : ∀ hole ∈ t.holes, Fits hole.1.toList
  literals : ∀ hole ∈ t.holes, Separate hole.2.toList

instance (literal : List Char) : Decidable (Separate literal) :=
  decidable_of_iff' _ (separate_iff literal)

instance (key : List Char) : Decidable (Fits key) :=
  -- Only the characters of the key are to be looked at, not all that there are.
  have : Decidable (∀ c ∈ key, c ≠ '<' ∧ c ≠ '>' ∧ c ≠ '\n') := List.decidableBAll _ key
  decidable_of_iff' _ (fits_iff key)

instance (t : Template) : Decidable t.WellFormed :=
  decidable_of_iff' _ (wellFormed_iff t)

theorem Fits.nameable {key : List Char} (h : Fits key) : Placeholder.Nameable key where
  nonempty := h.nonempty
  unopened := fun hopen => (h.plain '<' (hopen.subset List.mem_cons_self)).1 rfl
  unclosed := fun hclose => (h.plain '>' (hclose.subset List.mem_cons_self)).2.1 rfl

theorem Fits.delimited {key : List Char} (h : Fits key) : Placeholder.Delimited key where
  nonempty := h.nonempty
  unclosed := h.nameable.unclosed
  oneLine := fun hline => (h.plain '\n' hline).2.2 rfl
  finish := fun hend => absurd rfl (h.plain '>' (hend.subset List.mem_cons_self)).2.1

theorem toList_fill (t : Template) (content : String → String) :
    (t.fill content).toList =
      t.start.toList ++ t.holes.flatMap fun hole => (content hole.1).toList ++ hole.2.toList := by
  simp [fill, String.toList_join, List.flatMap_map]

theorem toList_text (t : Template) :
    t.text.toList =
      t.start.toList ++
        t.holes.flatMap fun hole => Placeholder.token hole.1.toList ++ hole.2.toList := by
  rw [text, toList_fill]
  simp [Placeholder.token]

/-- Opening brackets start after a literal, not in it. -/
theorem eq_nil_of_append_eq {literal rest tail : List Char}
    (hunopened : ¬ ['<', '<'] <:+: literal) (hfinish : ¬ ['<'] <:+ literal)
    (heq : literal ++ rest = '<' :: '<' :: tail) : literal = [] := by
  rcases literal with _ | ⟨c, _ | ⟨d, more⟩⟩
  · rfl
  · rw [List.singleton_append, List.cons.injEq] at heq
    exact absurd (heq.1 ▸ List.suffix_refl _) hfinish
  · simp only [List.cons_append, List.cons.injEq] at heq
    obtain ⟨rfl, rfl, -⟩ := heq
    exact absurd ⟨[], more, rfl⟩ hunopened

end Template

namespace Placeholder

open Template

/-! ## Substitution -/

theorem substitute_cons {store : Store} {c : Char} {rest : List Char}
    (h : ∀ tail, c :: rest ≠ '<' :: '<' :: tail) :
    substitute store (c :: rest) = c :: substitute store rest := by
  rw [substitute]
  rintro tail rfl rfl
  exact h tail rfl

theorem substitute_literal {literal : List Char} (hunopened : ¬ ['<', '<'] <:+: literal)
    (hfinish : ¬ ['<'] <:+ literal) (store : Store) (rest : List Char) :
    substitute store (literal ++ rest) = literal ++ substitute store rest := by
  induction literal with
  | nil => rfl
  | cons c more ih =>
    have hmore : substitute store (more ++ rest) = more ++ substitute store rest := by
      apply ih
      · intro hin
        exact hunopened (List.infix_cons hin)
      · intro hend
        exact hfinish (hend.trans (List.suffix_cons c more))
    rw [List.cons_append, substitute_cons, hmore, List.cons_append]
    intro tail heq
    have hnil := eq_nil_of_append_eq hunopened hfinish heq
    cases hnil

theorem closing_append {key : List Char} (hunclosed : ¬ ['>', '>'] <:+: key) (hline : '\n' ∉ key)
    (hfinish : ¬ ['>'] <:+ key) (rest : List Char) :
    closing (key ++ '>' :: '>' :: rest) = some (key, rest) := by
  induction key with
  | nil => simp [closing]
  | cons c more ih =>
    have hmore : closing (more ++ '>' :: '>' :: rest) = some (more, rest) := by
      apply ih
      · intro hin
        exact hunclosed (List.infix_cons hin)
      · intro hmem
        exact hline (List.mem_cons_of_mem c hmem)
      · intro hend
        exact hfinish (hend.trans (List.suffix_cons c more))
    rw [List.cons_append, closing, if_neg (List.ne_of_not_mem_cons hline).symm, hmore]
    · rfl
    · rintro tail rfl htail
      -- A closing bracket in front is the last of the key or has another one behind it.
      rcases more with _ | ⟨d, more⟩
      · exact hfinish (List.suffix_refl _)
      · obtain ⟨rfl, -⟩ := List.cons.inj htail
        exact hunclosed ⟨[], more, rfl⟩

theorem keyAfter_append {key : List Char} (h : Delimited key) (rest : List Char) :
    keyAfter (key ++ '>' :: '>' :: rest) = some (key, rest) := by
  cases key with
  | nil => exact absurd rfl h.nonempty
  | cons c more =>
    have hmore : closing (more ++ '>' :: '>' :: rest) = some (more, rest) := by
      apply closing_append
      · intro hin
        exact h.unclosed (List.infix_cons hin)
      · intro hmem
        exact h.oneLine (List.mem_cons_of_mem c hmem)
      · intro hend
        obtain ⟨-, rfl⟩ := List.cons.inj (h.finish (hend.trans (List.suffix_cons c more)))
        exact List.cons_ne_nil _ _ (List.suffix_nil.mp hend)
    rw [List.cons_append, keyAfter, if_neg (List.ne_of_not_mem_cons h.oneLine).symm, hmore]
    rfl

theorem substitute_token {key : List Char} (h : Delimited key) (store : Store)
    (rest : List Char) :
    substitute store (token key ++ rest) =
      (Value.embedded (store.get? (String.ofList key))).toList ++ substitute store rest := by
  have htoken : token key ++ rest = '<' :: '<' :: (key ++ '>' :: '>' :: rest) := by
    simp [token]
  rw [htoken, substitute, keyAfter_append h]

theorem substitute_holes {holes : List (String × String)}
    (hkeys : ∀ hole ∈ holes, Fits hole.1.toList)
    (hliterals : ∀ hole ∈ holes, Separate hole.2.toList) (store : Store) :
    substitute store (holes.flatMap fun hole => token hole.1.toList ++ hole.2.toList) =
      holes.flatMap fun hole =>
        (Value.embedded (store.get? hole.1)).toList ++ hole.2.toList := by
  induction holes with
  | nil => rw [List.flatMap_nil, List.flatMap_nil, substitute]
  | cons hole rest ih =>
    obtain ⟨hkey, hkeys⟩ := List.forall_mem_cons.mp hkeys
    obtain ⟨hliteral, hliterals⟩ := List.forall_mem_cons.mp hliterals
    rw [List.flatMap_cons, List.flatMap_cons, List.append_assoc, List.append_assoc,
      substitute_token hkey.delimited, substitute_literal hliteral.unopened hliteral.finish,
      ih hkeys hliterals, String.ofList_toList]

/-- Each placeholder of a template is replaced, and nothing else. -/
theorem substitute_text {t : Template} (h : t.WellFormed) (store : Store) :
    substitute store t.text.toList = (t.filled store).toList := by
  rw [filled, toList_text, toList_fill, substitute_literal h.start.unopened h.start.finish,
    substitute_holes h.keys h.literals]

/-! ## A placeholder that stands alone -/

/-- Where closing brackets are only at the end, nothing follows the first ones, unless it goes on
with another bracket. -/
theorem eq_nil_of_closing {key inner after : List Char}
    (heq : key ++ ['>', '>'] ++ after = inner ++ ['>', '>']) (hafter : ¬ ['>'] <+: after)
    (hinner : ¬ ['>', '>'] <:+: inner) : after = [] := by
  rcases after.eq_nil_or_concat' with rfl | ⟨before, c, rfl⟩
  · rfl
  have hlast : inner ++ ['>', '>'] = inner ++ ['>'] ++ ['>'] := by simp
  rw [← List.append_assoc, hlast] at heq
  obtain ⟨hinit, hc⟩ := List.append_inj' heq rfl
  rw [hc] at hafter
  rcases before.eq_nil_or_concat' with rfl | ⟨middle, d, rfl⟩
  · exact absurd (List.prefix_refl _) hafter
  · rw [← List.append_assoc] at hinit
    obtain ⟨rfl, -⟩ := List.append_inj' hinit rfl
    exact absurd (List.infix_append key ['>', '>'] middle) hinner

theorem not_prefix_of_separate {literal : List Char} (h : Separate literal)
    (holes : List (String × String)) :
    ¬ ['>'] <+: literal ++ holes.flatMap fun hole => token hole.1.toList ++ hole.2.toList := by
  intro hclose
  cases literal with
  | cons c more =>
    rw [List.cons_append, List.cons_prefix_cons] at hclose
    exact h.start (hclose.1 ▸ List.prefix_append ['>'] more)
  | nil =>
    cases holes with
    | nil => simp at hclose
    | cons hole rest => simp [token] at hclose

/-- A template whose text is one placeholder and nothing else has one key and no literals. -/
theorem eq_single_of_wholeKey? {t : Template} (h : t.WellFormed) {key : List Char}
    (hkey : wholeKey? t.text.toList = some key) : t = ⟨"", [(String.ofList key, "")]⟩ := by
  obtain ⟨start, holes⟩ := t
  obtain ⟨htext, hnameable⟩ := wholeKey?_eq_some_iff.mp hkey
  rw [toList_text] at htext
  have hstart : start = "" := by
    rw [← String.toList_eq_nil_iff]
    exact eq_nil_of_append_eq h.start.unopened h.start.finish htext
  subst hstart
  cases holes with
  | nil => simp [token] at htext
  | cons hole rest =>
    obtain ⟨name, literal⟩ := hole
    have hliteral := h.literals _ List.mem_cons_self
    have hafter := not_prefix_of_separate hliteral rest
    rw [String.toList_empty, List.nil_append, List.flatMap_cons, List.append_assoc, token, token,
      List.append_assoc, List.append_assoc, List.append_assoc, List.append_cancel_left_eq,
      ← List.append_assoc] at htext
    have hnil := eq_nil_of_closing htext hafter hnameable.unclosed
    rw [hnil, List.append_nil, List.append_cancel_right_eq] at htext
    obtain ⟨hliteralnil, hrest⟩ := List.append_eq_nil_iff.mp hnil
    obtain rfl := String.toList_eq_nil_iff.mp hliteralnil
    cases rest with
    | nil => rw [← htext, String.ofList_toList]
    | cons hole more => simp [token] at hrest

/-- A template without an increment gives the stored value itself when it is one placeholder alone,
and otherwise its text with the texts of the stored values put in. -/
theorem resolveText_template {t : Template} (h : t.WellFormed)
    (hplain : ¬ Increment.word <:+: t.text.toList) (store : Store) :
    (∀ key, t = ⟨"", [(key, "")]⟩ →
      resolveText store t.text = .ok ((store.get? key).getD .null)) ∧
    ((∀ key, t ≠ ⟨"", [(key, "")]⟩) →
      resolveText store t.text = .ok (.text (t.filled store))) := by
  rw [resolveText_eq_resolvePlain hplain]
  constructor
  · rintro key rfl
    have hfits := h.keys _ List.mem_cons_self
    have hwhole : wholeKey? (Template.mk "" [(key, "")]).text.toList = some key.toList := by
      rw [wholeKey?_eq_some_iff, toList_text]
      refine ⟨?_, hfits.nameable⟩
      simp
    simp only [resolvePlain, hwhole, String.ofList_toList]
  · intro halone
    have hwhole : wholeKey? t.text.toList = none := by
      by_contra hsome
      obtain ⟨key, hkey⟩ := Option.ne_none_iff_exists'.mp hsome
      exact halone _ (eq_single_of_wholeKey? h hkey)
    rw [resolvePlain, hwhole, substitute_text h, String.ofList_toList]

/-- A template with brackets in its literals and placeholders side by side. -/
def sideBySide : Template :=
  ⟨"a<b>>", [("x", ""), ("y", " > "), ("missing", "")]⟩

/-- A store whose values look like placeholders and increments. -/
def lookalikes : Store :=
  .ofPairs [("x", .text "<<y>>"), ("y", .text "increment(x)")]

theorem resolveText_sideBySide :
    sideBySide.WellFormed ∧ ¬ Increment.word <:+: sideBySide.text.toList ∧
      resolveText lookalikes "a<b>><<x>><<y>> > <<missing>>" =
        .ok (.text "a<b>><<y>>increment(x) > ") := by
  have hwell : sideBySide.WellFormed := by decide +kernel
  have hplain : ¬ Increment.word <:+: sideBySide.text.toList := by decide +kernel
  have htext : sideBySide.text = "a<b>><<x>><<y>> > <<missing>>" := by decide +kernel
  have hfilled : sideBySide.filled lookalikes = "a<b>><<y>>increment(x) > " := by decide +kernel
  have hnot : ∀ key, sideBySide ≠ ⟨"", [(key, "")]⟩ := by
    intro key h
    have hstart : sideBySide.start ≠ "" := by decide
    exact hstart (congrArg Template.start h)
  refine ⟨hwell, hplain, ?_⟩
  rw [← htext, ← hfilled]
  exact (resolveText_template hwell hplain lookalikes).2 hnot

end Placeholder

end FlowRunner
