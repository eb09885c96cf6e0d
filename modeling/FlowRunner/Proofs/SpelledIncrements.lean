import FlowRunner.Proofs.EmbeddedPlaceholders
import FlowRunner.Proofs.Successors
import Mathlib.Tactic.MkIffOfInductiveProp

/-!
# Spellings of an increment

An increment can be written in many ways: with either kind of bracket on either side, with blanks
behind its word and inside the brackets, with the key bare or as a placeholder, and inside any other
text (`Increment.Spelled`). All of them stand for the same number or fail in the same way, because
the same key is looked up (`Increment.resolveText_spelled`).

The text in front must not hold the word, for the first increment of a text is the one that counts.
It may end with the start of the word, as no end of the word is a start of it
(`Increment.reference?_append`). What follows may be anything, further increments and placeholders
included.
-/

namespace FlowRunner

namespace Increment

/-- A key that can be named by every spelling: not empty, without blanks at its ends and without
brackets. -/
@[mk_iff]
structure Referable (key : List Char) : Prop where
  nonempty : key ≠ []
  trimmed : Text.trim key = key
  unbracketed : ∀ c ∈ key, c ∉ ['(', ')', '[', ']', '<', '>']

-- The characters of the key are tried, not all characters.
instance (key : List Char) : Decidable (Referable key) :=
  have : Decidable (∀ c ∈ key, c ∉ ['(', ')', '[', ']', '<', '>']) := List.decidableBAll _ key
  decidable_of_iff' _ (referable_iff key)

/-- A key as it is written in an increment: bare or as a placeholder. -/
inductive Names (key : List Char) : List Char → Prop
  | bare : Names key key
  | placeholder : Names key (Placeholder.token key)

/-- A text whose first increment is one of a key. -/
inductive Spelled (key : List Char) : List Char → Prop
  | mk {before gap left reference right after : List Char} {opening closing : Char}
    (hbefore : ¬ word <:+: before)
    (hgap : ∀ c ∈ gap, Text.isBlank c = true) (hopening : opens opening = true)
    (hleft : ∀ c ∈ left, Text.isBlank c = true) (hreference : Names key reference)
    (hright : ∀ c ∈ right, Text.isBlank c = true) (hclosing : closes closing = true) :
    Spelled key (before ++ (word ++ (gap ++
      opening :: (left ++ reference ++ right ++ closing :: after))))

/-! ## The first increment of a text -/

/-- No occurrence of the word begins in a text without the word and ends in the word behind it. -/
theorem not_prefix_append_word {c : Char} {before : List Char} (h : ¬ word <:+: c :: before)
    (rest : List Char) : ¬ word <+: c :: before ++ (word ++ rest) := by
  have hword : word = 'i' :: word.tail := rfl
  have htail : 'i' ∉ word.tail := by decide
  intro hprefix
  rw [hword, List.cons_append, List.cons_append, List.cons_prefix_cons] at hprefix
  obtain ⟨hstart, hprefix⟩ := hprefix
  -- Behind its first character the word has none that could begin another one.
  rw [prefix_append_cons_iff htail] at hprefix
  apply h
  rw [hword, ← hstart]
  exact (List.cons_prefix_cons.mpr ⟨rfl, hprefix⟩).isInfix

theorem reference?_append {before : List Char} (h : ¬ word <:+: before) (rest : List Char) :
    reference? (before ++ (word ++ rest)) = reference? (word ++ rest) := by
  induction before with
  | nil => rfl
  | cons c more ih =>
    have hnone : Text.after? word (c :: (more ++ (word ++ rest))) = none := by
      rw [← Option.not_isSome_iff_eq_none, Text.isSome_after?_iff]
      exact not_prefix_append_word h rest
    have hmore : ¬ word <:+: more := fun hin => h (List.infix_cons hin)
    rw [List.cons_append, reference?, hnone, Option.bind_none]
    exact ih hmore

theorem reference?_word {rest inside : List Char} (h : content? rest = some inside) :
    reference? (word ++ rest) = some (Text.trim inside) := by
  have hcons : word ++ rest = 'i' :: (word.tail ++ rest) := rfl
  have hafter : Text.after? word ('i' :: (word.tail ++ rest)) = some rest :=
    Text.after?_append word rest
  rw [hcons, reference?, hafter, Option.bind_some, h]

theorem isBlank_of_opens {c : Char} (h : opens c = true) : Text.isBlank c = false := by
  simp only [opens, Bool.or_eq_true, beq_iff_eq] at h
  rcases h with rfl | rfl <;> rfl

theorem closes_of_isBlank {c : Char} (h : Text.isBlank c = true) : closes c = false := by
  cases hclose : closes c with
  | false => rfl
  | true =>
    simp only [closes, Bool.or_eq_true, beq_iff_eq] at hclose
    rcases hclose with rfl | rfl <;> cases h

/-- What stands between the brackets, up to the first one that closes. -/
theorem content?_eq {gap inside after : List Char} {opening closing : Char}
    (hgap : ∀ c ∈ gap, Text.isBlank c = true) (hopening : opens opening = true)
    (hinside : ∀ c ∈ inside, closes c = false) (hne : inside ≠ [])
    (hclosing : closes closing = true) :
    content? (gap ++ opening :: (inside ++ closing :: after)) = some inside := by
  have hstart : (gap ++ opening :: (inside ++ closing :: after)).dropWhile Text.isBlank =
      opening :: (inside ++ closing :: after) := by
    rw [List.dropWhile_append_of_pos hgap,
      List.dropWhile_cons_of_neg (by simp [isBlank_of_opens hopening])]
  have hend : (inside ++ closing :: after).takeWhile (fun c => !closes c) = inside := by
    rw [List.takeWhile_append_of_pos (by simpa using hinside),
      List.takeWhile_cons_of_neg (by simp [hclosing]), List.append_nil]
  have hshort : inside.length ≠ (inside ++ closing :: after).length := by
    simp only [List.length_append, List.length_cons]
    omega
  rw [content?, hstart]
  dsimp only
  rw [if_pos hopening, hend, if_neg]
  simp [hne]

/-! ## The key of a spelling -/

namespace Referable

variable {key : List Char}

theorem nameable (h : Referable key) : Placeholder.Nameable key := by
  have hopen : '<' ∉ key := fun hmem => h.unbracketed '<' hmem (by decide)
  have hclose : '>' ∉ key := fun hmem => h.unbracketed '>' hmem (by decide)
  refine ⟨h.nonempty, ?_, ?_⟩
  · exact fun hin => hopen (hin.subset List.mem_cons_self)
  · exact fun hin => hclose (hin.subset List.mem_cons_self)

theorem closes_eq_false (h : Referable key) {c : Char} (hc : c ∈ key) : closes c = false := by
  have hplain := h.unbracketed c hc
  simp only [List.mem_cons, List.not_mem_nil, or_false, not_or] at hplain
  simp [closes, hplain]

theorem trim_token (key : List Char) :
    Text.trim (Placeholder.token key) = Placeholder.token key := by
  have hlast : (Placeholder.token key).getLast? = some '>' := by
    rw [Placeholder.token, List.getLast?_append_of_ne_nil _ (List.cons_ne_nil _ _)]
    rfl
  rw [Text.trim_eq_self_iff, hlast]
  constructor
  · intro c hc
    cases hc
    rfl
  · intro c hc
    cases hc
    rfl

theorem names {reference : List Char} (h : Referable key) (hreference : Names key reference) :
    reference ≠ [] ∧ Text.trim reference = reference ∧ (∀ c ∈ reference, closes c = false) ∧
      keyOf reference = String.ofList key := by
  cases hreference with
  | bare =>
    have hwhole : wholeKey? key = none := Placeholder.wholeKey?_of_unopened h.nameable.unopened
    refine ⟨h.nonempty, h.trimmed, fun c hc => h.closes_eq_false hc, ?_⟩
    rw [keyOf, hwhole, Option.getD_none]
  | placeholder =>
    have hwhole : wholeKey? (Placeholder.token key) = some key :=
      wholeKey?_eq_some_iff.mpr ⟨rfl, h.nameable⟩
    refine ⟨List.cons_ne_nil _ _, trim_token key, ?_, ?_⟩
    · intro c hc
      simp only [Placeholder.token, List.mem_append, List.mem_cons, List.not_mem_nil, or_false,
        or_self] at hc
      rcases hc with (rfl | hc) | rfl
      · rfl
      · exact h.closes_eq_false hc
      · rfl
    · rw [keyOf, hwhole, Option.getD_some]

end Referable

theorem Spelled.exists_reference {key s : List Char} (hkey : Referable key) (h : Spelled key s) :
    ∃ reference, reference? s = some reference ∧ keyOf reference = String.ofList key := by
  obtain ⟨hbefore, hgap, hopening, hleft, hreference, hright, hclosing⟩ := h
  rename_i before gap left reference right after opening closing
  obtain ⟨hne, htrim, hunclosed, hkeyOf⟩ := hkey.names hreference
  have hinside : ∀ c ∈ left ++ reference ++ right, closes c = false := by
    intro c hc
    rcases List.mem_append.mp hc with hc | hc
    · rcases List.mem_append.mp hc with hc | hc
      · exact closes_of_isBlank (hleft c hc)
      · exact hunclosed c hc
    · exact closes_of_isBlank (hright c hc)
  have hcontent : content? (gap ++ opening :: (left ++ reference ++ right ++ closing :: after)) =
      some (left ++ reference ++ right) :=
    content?_eq hgap hopening hinside (by simp [hne]) hclosing
  refine ⟨reference, ?_, hkeyOf⟩
  rw [reference?_append hbefore, reference?_word hcontent, Text.trim_append hleft hright htrim hne]

/-- The plainest spelling of an increment. -/
theorem spelled_plain (key : String) : Spelled key.toList ("increment(" ++ key ++ ")").toList := by
  have hstart : "increment(".toList = word ++ ['('] := by decide
  have hend : ")".toList = [')'] := by decide
  have htext : ("increment(" ++ key ++ ")").toList =
      [] ++ (word ++ ([] ++ '(' :: ([] ++ key.toList ++ [] ++ ')' :: []))) := by
    rw [String.toList_append, String.toList_append, hstart, hend]
    simp
  rw [htext]
  exact .mk (by decide) (List.forall_mem_nil _) rfl (List.forall_mem_nil _) .bare
    (List.forall_mem_nil _) rfl

/-- However an increment is written, it stands for the successor of the number that its key refers
to, or fails with that key. This is what the plainest spelling does. -/
theorem resolveText_spelled (store : Store) {key s : String} (hkey : Referable key.toList)
    (h : Spelled key.toList s.toList) :
    Placeholder.resolveText store s = (next store key).mapError (.noIncrement key) ∧
      Placeholder.resolveText store s =
        Placeholder.resolveText store ("increment(" ++ key ++ ")") := by
  have hresolve : ∀ {t : String}, Spelled key.toList t.toList →
      Placeholder.resolveText store t = (next store key).mapError (.noIncrement key) := by
    intro t ht
    obtain ⟨reference, hreference, hname⟩ := ht.exists_reference hkey
    rw [resolveText_of_reference hreference, hname, String.ofList_toList]
  exact ⟨hresolve h, (hresolve h).trans (hresolve (spelled_plain key)).symm⟩

/-- A text with an increment between the start of the word and another increment. -/
def crowded : String :=
  "<<x>> increincrement\n [ <<a b>>\t) increment(9)<<x>>"

def apples : Store :=
  .ofPairs [("x", .null), ("a b", .text "41 apples")]

theorem resolveText_spelled_crowded :
    Referable "a b".toList ∧ Spelled "a b".toList crowded.toList ∧
      Placeholder.resolveText apples crowded = .ok (.ofInt 42) ∧
      Placeholder.resolveText Store.empty crowded = .error (.noIncrement "a b" "a b") ∧
      Placeholder.resolveText Store.empty crowded =
        Placeholder.resolveText Store.empty "increment(a b)" := by
  have hkey : Referable "a b".toList := by decide
  have htext : crowded.toList = "<<x>> incre".toList ++ (word ++ ("\n ".toList ++
      '[' :: ([' '] ++ Placeholder.token "a b".toList ++ ['\t'] ++
        ')' :: " increment(9)<<x>>".toList))) := by decide +kernel
  have hspelled : Spelled "a b".toList crowded.toList := by
    rw [htext]
    exact .mk (by decide) (List.all_eq_true.mp rfl) rfl (List.all_eq_true.mp rfl) .placeholder
      (List.all_eq_true.mp rfl) rfl
  obtain ⟨hnumber, -⟩ := resolveText_spelled apples hkey hspelled
  obtain ⟨hrefused, hplain⟩ := resolveText_spelled Store.empty hkey hspelled
  have hnext : next apples "a b" = .ok (.ofInt 42) := by
    have hbase : base? apples "a b" = some 41 := by decide +kernel
    rw [next, hbase]
    rfl
  have hnone : next Store.empty "a b" = .error "a b" := by
    have hbase : base? Store.empty "a b" = none := by decide +kernel
    rw [next, hbase]
    rfl
  rw [hnext] at hnumber
  rw [hnone] at hrefused
  exact ⟨hkey, hspelled, hnumber, hrefused, hplain⟩

end Increment

end FlowRunner
