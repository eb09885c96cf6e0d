import FlowRunner.Proofs.ComposedPaths
import FlowRunner.Proofs.SegmentForms
import Mathlib.Data.List.Basic
import Mathlib.Tactic.MkIffOfInductiveProp

/-!
# Segments written as texts

A segment is written as its key with its positions in brackets behind it, and a path as such texts
with slashes between them. Where the keys can be spelled, this is read back as it was meant.

* `Segment.Spellable.form_spelled`: the text of a segment has one of the forms of segments.
* `Path.segments?_join`: the text of segments is read back as the same segments.
* `Value.lookup?_join`: as a path expression it reads what the segments lead to.
-/

namespace FlowRunner

namespace Segment

/-- A key that is not changed or cut where it is a piece of a path: not empty, without blanks at its
ends, and without the characters that have a meaning. -/
@[mk_iff]
structure SpellableName (name : List Char) : Prop where
  nonempty : name ≠ []
  trimmed : Text.trim name = name
  slash : '/' ∉ name
  bracket : '[' ∉ name
  bar : '|' ∉ name

instance (name : List Char) : Decidable (SpellableName name) :=
  decidable_of_iff' _ (spellableName_iff name)

/-- The text of a position. -/
def bracketed (index : Nat) : List Char :=
  '[' :: (toString index).toList ++ [']']

/-- The text of a segment. -/
def spelled (segment : Segment) : List Char :=
  segment.name ++ segment.indices.flatMap bracketed

/-- A segment that is not empty, whose key is kept as it is, if it has one, and whose positions fit
64 bits. -/
structure Spellable (segment : Segment) : Prop where
  name : segment.name = [] ∧ segment.indices ≠ [] ∨ SpellableName segment.name
  indices : ∀ index ∈ segment.indices, Reading.fits 64 index = true

theorem isDigit_of_mem_flatMap_bracketed {c : Char} {indices : List Nat}
    (h : c ∈ indices.flatMap bracketed) : c = '[' ∨ c = ']' ∨ c.isDigit = true := by
  obtain ⟨index, -, hc⟩ := List.mem_flatMap.mp h
  simp only [bracketed, List.cons_append, List.mem_cons, List.mem_append, List.not_mem_nil,
    or_false] at hc
  rcases hc with hopen | hdigit | hclose
  · exact .inl hopen
  · exact .inr (.inr (Reading.isDigit_of_mem_toString hdigit))
  · exact .inr (.inl hclose)

theorem notMem_spelled {segment : Segment} {c : Char} (hname : c ∉ segment.name)
    (hc : ¬ (c = '[' ∨ c = ']' ∨ c.isDigit = true)) : c ∉ segment.spelled := by
  intro h
  rcases List.mem_append.mp h with h | h
  · exact hname h
  · exact hc (isDigit_of_mem_flatMap_bracketed h)

theorem getLast?_flatMap_bracketed {indices : List Nat} (h : indices ≠ []) :
    (indices.flatMap bracketed).getLast? = some ']' := by
  rw [← List.dropLast_append_getLast h, List.flatMap_append, List.flatMap_singleton, bracketed,
    ← List.append_assoc, List.getLast?_concat]

theorem inside_toString {index : Nat} (h : Reading.fits 64 index = true) :
    Inside (toString index).toList index := by
  have hdigits := Reading.unsigned_toString index
  rw [inside_iff, hdigits.trim_eq]
  exact Reading.natural?_toString h

/-- Positions stand in the brackets that they are written in, and nothing stands behind them. -/
theorem brackets_flatMap_bracketed {indices : List Nat}
    (h : ∀ index ∈ indices, Reading.fits 64 index = true) :
    Brackets (indices.flatMap bracketed) indices [] := by
  induction indices with
  | nil => exact brackets_nil
  | cons index rest ih =>
    obtain ⟨hindex, hrest⟩ := List.forall_mem_cons.mp h
    have htext : (index :: rest).flatMap bracketed =
        '[' :: ((toString index).toList ++ ']' :: rest.flatMap bracketed) := by
      simp [bracketed]
    rw [htext]
    exact .next (inside_toString hindex) (ih hrest)

namespace Spellable

variable {segment : Segment}

theorem concat (h : segment.Spellable) {index : Nat} (hindex : Reading.fits 64 index = true) :
    Spellable ⟨segment.name, segment.indices ++ [index]⟩ := by
  refine ⟨h.name.imp (fun hname => ⟨hname.1, List.concat_ne_nil _ _⟩) id, fun other hother => ?_⟩
  rcases List.mem_append.mp hother with hold | hnew
  · exact h.indices other hold
  · exact List.mem_singleton.mp hnew ▸ hindex

theorem spelled_ne_nil (h : segment.Spellable) : segment.spelled ≠ [] := by
  rw [spelled, ne_eq, List.append_eq_nil_iff]
  rintro ⟨hname, hindices⟩
  rcases h.name with ⟨-, hsome⟩ | hspellable
  · obtain ⟨index, hindex⟩ := List.exists_mem_of_ne_nil _ hsome
    cases List.flatMap_eq_nil_iff.mp hindices index hindex
  · exact hspellable.nonempty hname

/-- A key has none of the characters with a meaning. -/
theorem notMem_name (h : segment.Spellable) {c : Char} (hc : c = '/' ∨ c = '[' ∨ c = '|') :
    c ∉ segment.name := by
  rcases h.name with ⟨hnil, -⟩ | hspellable
  · rw [hnil]
    exact List.not_mem_nil
  · rcases hc with rfl | rfl | rfl
    · exact hspellable.slash
    · exact hspellable.bracket
    · exact hspellable.bar

theorem trim_spelled (h : segment.Spellable) : Text.trim segment.spelled = segment.spelled := by
  by_cases hindices : segment.indices = []
  · rcases h.name with ⟨-, hsome⟩ | hspellable
    · exact absurd hindices hsome
    · rw [spelled, hindices, List.flatMap_nil, List.append_nil, hspellable.trimmed]
  · have hlast := getLast?_flatMap_bracketed hindices
    refine Text.trim_eq_self_iff.mpr ⟨fun c hc => ?_, fun c hc => ?_⟩
    · rcases h.name with ⟨hnil, -⟩ | hspellable
      · obtain ⟨index, rest, hcons⟩ := List.exists_cons_of_ne_nil hindices
        rw [spelled, hnil, hcons] at hc
        cases hc
        rfl
      · have hhead := (Text.trim_eq_self_iff.mp hspellable.trimmed).1
        rw [spelled, List.head?_append_of_ne_nil _ hspellable.nonempty] at hc
        exact hhead c hc
    · rw [spelled, List.getLast?_append, hlast] at hc
      cases hc
      rfl

/-- The text of a segment is written for this segment, and nothing stands behind it. -/
theorem form_spelled (h : segment.Spellable) : Form segment.spelled segment [] := by
  have hname := h.notMem_name (.inr (.inl rfl))
  have hbrackets := brackets_flatMap_bracketed h.indices
  obtain ⟨name, indices⟩ := segment
  cases indices with
  | nil =>
    rw [spelled, List.flatMap_nil, List.append_nil]
    exact .key hname
  | cons index rest => exact .indexed hname hbrackets

end Spellable

theorem follow?_concat (name : List Char) (indices : List Nat) (index : Nat) (v : Value) :
    follow? ⟨name, indices ++ [index]⟩ v =
      (follow? ⟨name, indices⟩ v).bind (Value.item? index) :=
  List.foldl_concat _ _ _ _

theorem mapM_ofText?_spelled {segments : List Segment}
    (h : ∀ segment ∈ segments, segment.Spellable) :
    (segments.map spelled).mapM ofText? = some segments := by
  induction segments with
  | nil => rfl
  | cons segment rest ih =>
    obtain ⟨hsegment, hrest⟩ := List.forall_mem_cons.mp h
    rw [List.map_cons, List.mapM_cons, ih hrest, hsegment.form_spelled.ofText?_eq]
    rfl

end Segment

variable {segments : List Segment}

namespace Path

theorem pieces_join (hne : segments ≠ []) (h : ∀ segment ∈ segments, segment.Spellable) :
    pieces (Text.join ['/'] (segments.map Segment.spelled)) = segments.map Segment.spelled := by
  have hslash : ∀ piece ∈ segments.map Segment.spelled, '/' ∉ piece := by
    intro piece hpiece
    obtain ⟨segment, hsegment, rfl⟩ := List.mem_map.mp hpiece
    exact Segment.notMem_spelled ((h segment hsegment).notMem_name (.inl rfl)) (by decide)
  have hsplit : Text.splitOn '/' (Text.join ['/'] (segments.map Segment.spelled)) =
      segments.map Segment.spelled :=
    Text.splitOn_join (mt List.map_eq_nil_iff.mp hne) hslash
  have htrim : (segments.map Segment.spelled).map Text.trim = segments.map Segment.spelled := by
    rw [List.map_map]
    exact List.map_congr_left fun segment hsegment => (h segment hsegment).trim_spelled
  rw [pieces, hsplit, htrim]
  refine List.filter_eq_self.mpr fun piece hpiece => ?_
  obtain ⟨segment, hsegment, rfl⟩ := List.mem_map.mp hpiece
  simpa using (h segment hsegment).spelled_ne_nil

/-- Segments are read back from their texts with slashes between them. -/
theorem segments?_join (hne : segments ≠ []) (h : ∀ segment ∈ segments, segment.Spellable) :
    segments? (Text.join ['/'] (segments.map Segment.spelled)) = some segments := by
  rw [segments?_eq, pieces_join hne h, Segment.mapM_ofText?_spelled h]

end Path

/-- The text of segments, read as a path, leads where the segments lead. -/
theorem Value.lookup?_join (hne : segments ≠ []) (h : ∀ segment ∈ segments, segment.Spellable)
    (v : Value) :
    v.lookup? (Text.join ['/'] (segments.map Segment.spelled)) = Path.follow? segments v := by
  have hbar : '|' ∉ Text.join ['/'] (segments.map Segment.spelled) := by
    refine Text.notMem_join (by decide) fun piece hpiece => ?_
    obtain ⟨segment, hsegment, rfl⟩ := List.mem_map.mp hpiece
    have hname := (h segment hsegment).notMem_name (.inr (.inr rfl))
    exact Segment.notMem_spelled hname (by decide)
  rw [lookup?_of_notMem hbar, Path.segments?_join hne h, Option.bind_some]

end FlowRunner
