import FlowRunner.Proofs.ComposedPaths
import FlowRunner.Proofs.HandOver
import FlowRunner.Proofs.SegmentForms

/-!
# Paths that can be read

Where a path leads depends on the value, but whether it can lead anywhere does not: each of its
pieces has to be written for a segment. For any such path there is a value in which it finds
something (`Path.exists_follow?`), and any other path finds nothing anywhere.

A proper piece ends with its key or with its last bracket. What stands behind this bracket is passed
over without a word, so that a path with such a piece can be read too. This is the only way in which
a piece that leads somewhere fails to be proper (`Path.readings_proper_iff`).
-/

namespace FlowRunner

theorem exists_mapM_eq_some_iff {α β : Type} {f : α → Option β} {items : List α} :
    (∃ results, items.mapM f = some results) ↔ ∀ item ∈ items, ∃ result, f item = some result := by
  induction items with
  | nil => exact iff_of_true ⟨[], rfl⟩ (List.forall_mem_nil _)
  | cons item rest ih =>
    rw [List.mapM_cons, List.forall_mem_cons, ← ih]
    constructor
    · rintro ⟨results, h⟩
      obtain ⟨first, hfirst, h⟩ := Option.bind_eq_some_iff.mp h
      obtain ⟨others, hothers, -⟩ := Option.bind_eq_some_iff.mp h
      exact ⟨⟨first, hfirst⟩, others, hothers⟩
    · rintro ⟨⟨first, hfirst⟩, others, hothers⟩
      exact ⟨first :: others, by rw [hfirst, hothers]; rfl⟩

namespace Segment

/-- A text that is written for a segment, with more text behind the last bracket or without. -/
def Readable (s : List Char) : Prop :=
  ∃ segment tail, Form s segment tail

/-- A text that is written for a segment and for nothing else: a key alone, or positions in brackets
behind a key or behind nothing, the last of which ends the text. -/
def Proper (s : List Char) : Prop :=
  ∃ segment, Form s segment []

theorem readable_iff {s : List Char} : Readable s ↔ ∃ segment, ofText? s = some segment :=
  exists_congr fun _ => ofText?_eq_some_iff.symm

/-- A text that is written for a segment is proper when nothing stands behind the last bracket. -/
theorem Form.proper_iff {s tail : List Char} {segment : Segment} (h : Form s segment tail) :
    Proper s ↔ tail = [] := by
  constructor
  · rintro ⟨other, hother⟩
    exact (h.unique hother).2
  · rintro rfl
    exact ⟨segment, h⟩

/-! ## Values in which a segment leads somewhere -/

/-- Lists around a value, in which it is reached by positions. -/
def nest : List Nat → Value → Value
  | [], v => v
  | index :: rest, v => .list (List.replicate (index + 1) (nest rest v))

/-- A value in which a segment leads to a value. -/
def around (segment : Segment) (v : Value) : Value :=
  if segment.name.isEmpty then nest segment.indices v
  else .object [(String.ofList segment.name, nest segment.indices v)]

theorem foldl_item?_nest (indices : List Nat) (v : Value) :
    indices.foldl (fun found index => found.bind (Value.item? index)) (some (nest indices v)) =
      some v := by
  induction indices with
  | nil => rfl
  | cons index rest ih =>
    have hitem : (nest (index :: rest) v).item? index = some (nest rest v) := by
      rw [nest, Value.item?, List.getElem?_replicate_of_lt (Nat.lt_succ_self index)]
    rw [List.foldl_cons, Option.bind_some, hitem, ih]

theorem follow?_around (segment : Segment) (v : Value) :
    segment.follow? (segment.around v) = some v := by
  rw [follow?, around]
  split
  · exact foldl_item?_nest _ _
  · have hmember : enter? segment.name
        (.object [(String.ofList segment.name, nest segment.indices v)]) =
          some (nest segment.indices v) := by
      simp [enter?, Members.get?]
    rw [hmember, foldl_item?_nest]

end Segment

namespace Path

theorem exists_follow? (segments : List Segment) (found : Value) :
    ∃ v, follow? segments v = some found := by
  induction segments with
  | nil => exact ⟨found, rfl⟩
  | cons segment rest ih =>
    obtain ⟨inner, hinner⟩ := ih
    exact ⟨segment.around inner, by rw [follow?, segment.follow?_around, Option.bind_some, hinner]⟩

theorem exists_segments?_iff {path : List Char} :
    (∃ segments, segments? path = some segments) ↔
      ∀ piece ∈ pieces path, Segment.Readable piece := by
  rw [segments?_eq, exists_mapM_eq_some_iff]
  exact forall₂_congr fun piece _ => Segment.readable_iff.symm

/-- There is a value in which a path leads somewhere exactly when all of its pieces can be read. -/
theorem exists_lookup?_iff {path : List Char} (h : '|' ∉ path) :
    (∃ v found, Value.lookup? path v = some found) ↔
      ∀ piece ∈ pieces path, Segment.Readable piece := by
  rw [← exists_segments?_iff]
  constructor
  · rintro ⟨v, found, hfound⟩
    rw [Value.lookup?_of_notMem h] at hfound
    obtain ⟨segments, hsegments, -⟩ := Option.bind_eq_some_iff.mp hfound
    exact ⟨segments, hsegments⟩
  · rintro ⟨segments, hsegments⟩
    obtain ⟨v, hv⟩ := exists_follow? segments .null
    exact ⟨v, .null, by rw [Value.lookup?_of_notMem h, hsegments, Option.bind_some, hv]⟩

/-- A path leads somewhere in some value exactly when each of its pieces is a key alone or positions
in brackets behind a key or behind nothing, perhaps with more text behind the last bracket. A key of
the store that is kept by any other path is absent afterwards. All pieces of a path that leads
somewhere are proper unless one of them goes on behind its last bracket. -/
theorem readings_proper_iff {path : List Char} (h : '|' ∉ path) :
    ((∃ v found, Value.lookup? path v = some found) ↔
        ∀ piece ∈ pieces path, Segment.Readable piece) ∧
      ((∃ piece ∈ pieces path, ¬ Segment.Readable piece) →
        ∀ (store : Store) entries key result, Members.Distinct entries →
          (key, Value.text (String.ofList path)) ∈ entries →
            (store.extract (.paths entries) result).get? key = none) ∧
      ((∀ v found, Value.lookup? path v = some found →
          ∀ piece ∈ pieces path, Segment.Proper piece) ↔
        ((∀ piece ∈ pieces path, Segment.Readable piece) →
          ∀ piece ∈ pieces path, ∀ segment tail, Segment.Form piece segment tail → tail = [])) := by
  have hreadable := exists_lookup?_iff h
  refine ⟨hreadable, ?_, ?_⟩
  · rintro ⟨piece, hpiece, hmalformed⟩ store entries key result hentries hentry
    rw [Placeholder.get?_extract_ofList hentries hentry]
    by_contra hfound
    obtain ⟨found, hfound⟩ := Option.ne_none_iff_exists'.mp hfound
    exact hmalformed (hreadable.mp ⟨_, found, hfound⟩ piece hpiece)
  · constructor
    · intro hproper hall piece hpiece segment tail hform
      obtain ⟨v, found, hfound⟩ := hreadable.mpr hall
      exact hform.proper_iff.mp (hproper v found hfound piece hpiece)
    · intro hended v found hfound piece hpiece
      have hall := hreadable.mp ⟨v, found, hfound⟩
      obtain ⟨segment, tail, hform⟩ := hall piece hpiece
      exact hform.proper_iff.mpr (hended hall piece hpiece segment tail hform)

/-- The text of a piece with blanks around a position and a sign in front of one. -/
theorem form_rows : Segment.Form "rows[ 0 ][+1]".toList ⟨"rows".toList, [0, 1]⟩ [] := by
  have hzero : Segment.Inside " 0 ".toList 0 :=
    Segment.inside_iff.mpr (by decide +kernel)
  have hone : Segment.Inside "+1".toList 1 :=
    Segment.inside_iff.mpr (by decide +kernel)
  have hgroups : Segment.Brackets "[ 0 ][+1]".toList [0, 1] [] :=
    .next hzero (.next hone Segment.brackets_nil)
  have hname : '[' ∉ "rows".toList := by decide
  exact .indexed hname hgroups

theorem readings_proper_iff_rows :
    '|' ∉ "rows[ 0 ][+1]/ /id".toList ∧
      (∃ v found, Value.lookup? "rows[ 0 ][+1]/ /id".toList v = some found) ∧
      ∀ v found, Value.lookup? "rows[ 0 ][+1]/ /id".toList v = some found →
        ∀ piece ∈ ["rows[ 0 ][+1]".toList, "id".toList], Segment.Proper piece := by
  have hbar : '|' ∉ "rows[ 0 ][+1]/ /id".toList := by decide
  have hpieces : pieces "rows[ 0 ][+1]/ /id".toList = ["rows[ 0 ][+1]".toList, "id".toList] := by
    decide +kernel
  obtain ⟨hreads, -, hproper⟩ := readings_proper_iff hbar
  rw [hpieces] at hreads hproper
  have hid : Segment.Form "id".toList ⟨"id".toList, []⟩ [] := .key (by decide)
  refine ⟨hbar, hreads.mpr ?_, hproper.mpr ?_⟩
  · exact List.forall_mem_cons.mpr ⟨⟨_, _, form_rows⟩, List.forall_mem_singleton.mpr ⟨_, _, hid⟩⟩
  · intro _
    refine List.forall_mem_cons.mpr ⟨?_, List.forall_mem_singleton.mpr ?_⟩
    · exact fun segment tail hform => (hform.unique form_rows).2
    · exact fun segment tail hform => (hform.unique hid).2

/-- What stands behind the last bracket is passed over. -/
theorem tail_passed_over :
    Value.lookup? "items[0]x".toList (.object [("items", .list [.text "a"])]) = some (.text "a") ∧
      pieces "items[0]x".toList = ["items[0]x".toList] ∧
      ¬ Segment.Proper "items[0]x".toList := by
  have hzero : Segment.Inside "0".toList 0 := Segment.inside_iff.mpr (by decide +kernel)
  have hgroups : Segment.Brackets "[0]x".toList [0] "x".toList :=
    .next hzero (.done (by decide))
  have hname : '[' ∉ "items".toList := by decide
  have hform : Segment.Form "items[0]x".toList ⟨"items".toList, [0]⟩ "x".toList :=
    .indexed hname hgroups
  refine ⟨?_, by decide +kernel, fun hproper => ?_⟩
  · with_unfolding_all rfl
  · exact absurd (hform.proper_iff.mp hproper) (by decide)

end Path

end FlowRunner
