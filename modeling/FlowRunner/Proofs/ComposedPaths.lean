import FlowRunner.Proofs.CutTexts
import FlowRunner.Response.Path

/-!
# Paths one after another

A slash between two path texts puts the paths one after the other: what the second one reads, it
reads in what the first one leads to. This holds of all texts, whatever they are cut into. Only a
conversion must stand behind everything else, so the first text has none.

* `Path.pieces_append`: the pieces of both texts, in order.
* `Value.lookup?_conversion`: a conversion is applied to what the path in front of it reads.
* `Value.lookup?_append_slash`: the value at the end of both paths.
-/

namespace FlowRunner

namespace Path

/-- The pieces of a path text that are not blank, without the blanks around them. -/
def pieces (s : List Char) : List (List Char) :=
  ((Text.splitOn '/' s).map Text.trim).filter fun piece => !piece.isEmpty

theorem segments?_eq (s : List Char) : segments? s = (pieces s).mapM Segment.ofText? := rfl

theorem pieces_append (before after : List Char) :
    pieces (before ++ '/' :: after) = pieces before ++ pieces after := by
  rw [pieces, Text.splitOn_append, List.map_append, List.filter_append]
  rfl

theorem segments?_append (before after : List Char) :
    segments? (before ++ '/' :: after) =
      (segments? before).bind fun first => (segments? after).map (first ++ ·) := by
  rw [segments?_eq, pieces_append, List.mapM_append]
  refine congrArg _ (funext fun first => ?_)
  rw [segments?_eq, Option.map_eq_bind]
  rfl

theorem follow?_append (first last : List Segment) (v : Value) :
    follow? (first ++ last) v = (follow? first v).bind (follow? last) := by
  induction first generalizing v with
  | nil => rfl
  | cons segment rest ih =>
    rw [List.cons_append, follow?, follow?, Option.bind_assoc]
    exact congrArg _ (funext ih)

end Path

namespace Value

/-- Without a conversion, a path reads what its segments lead to. -/
theorem lookup?_of_notMem {path : List Char} (h : '|' ∉ path) (v : Value) :
    v.lookup? path = (Path.segments? path).bind fun segments => Path.follow? segments v := by
  rw [lookup?, Text.cut?_of_notMem h]
  dsimp only
  refine congrArg _ (funext fun segments => ?_)
  exact Option.bind_fun_some _

/-- A conversion is applied to what the path in front of it reads. -/
theorem lookup?_conversion {path : List Char} (h : '|' ∉ path) (name : List Char) (v : Value) :
    v.lookup? (path ++ '|' :: name) =
      (v.lookup? path).bind (Conversion.ofName (String.ofList (Text.trim name))).apply := by
  rw [lookup?_of_notMem h, lookup?, Text.cut?_append_cons h, Option.bind_assoc]
  rfl

theorem lookup?_converted {path name : List Char} {word : String} (h : '|' ∉ path)
    (hname : Text.trim name = word.toList) {v found : Value} (hfound : v.lookup? path = some found) :
    v.lookup? (path ++ '|' :: name) = (Conversion.ofName word).apply found := by
  rw [lookup?_conversion h, hfound, hname, String.ofList_toList, Option.bind_some]

theorem lookup?_append_of_notMem {before after : List Char} (hbefore : '|' ∉ before)
    (hafter : '|' ∉ after) (v : Value) :
    v.lookup? (before ++ '/' :: after) = (v.lookup? before).bind (lookup? after) := by
  have hbar : '|' ∉ before ++ '/' :: after := by simp [hbefore, hafter]
  rw [lookup?_of_notMem hbar, lookup?_of_notMem hbefore, Path.segments?_append, Option.bind_assoc,
    Option.bind_assoc]
  refine congrArg _ (funext fun first => ?_)
  -- The segments of the second path do not depend on the value that the first one leads to.
  rw [Option.bind_map, funext fun w => lookup?_of_notMem hafter w]
  cases Path.segments? after with
  | none => exact (Option.bind_fun_none _).symm
  | some last => exact Path.follow?_append first last v

/-- What a path reads behind another one, with a conversion or without, is what it reads in the value
that the other one leads to, and nothing where the other one leads nowhere. -/
theorem lookup?_append_slash {before : List Char} (h : '|' ∉ before) (after : List Char)
    (v : Value) :
    v.lookup? (before ++ '/' :: after) = (v.lookup? before).bind (lookup? after) := by
  by_cases hbar : '|' ∈ after
  · obtain ⟨path, name, rfl, hpath⟩ := List.eq_append_cons_of_mem hbar
    have hwhole : '|' ∉ before ++ '/' :: path := by simp [h, hpath]
    have htext : before ++ '/' :: (path ++ '|' :: name) = before ++ '/' :: path ++ '|' :: name := by
      rw [List.append_assoc, List.cons_append]
    rw [htext, lookup?_conversion hwhole, lookup?_append_of_notMem h hpath, Option.bind_assoc]
    exact congrArg _ (funext fun w => (lookup?_conversion hpath name w).symm)
  · exact lookup?_append_of_notMem h hbar v

/-- A list with one object, whose key looks like a position. -/
def parcels : Value :=
  .object [("parcels", .list [.object [("0", .text "17 pieces")]])]

theorem lookup?_append_slash_parcels :
    '|' ∉ "/parcels[0]/ ".toList ∧
      (parcels.lookup? "/parcels[0]/ / /0| int".toList) = some (.ofInt 17) ∧
      (parcels.lookup? "/parcels[0]/ /1| int".toList) = none := by
  have hbar : '|' ∉ "/parcels[0]/ ".toList := by decide
  have hfirst : parcels.lookup? "/parcels[0]/ ".toList =
      some (.object [("0", .text "17 pieces")]) := by
    with_unfolding_all rfl
  refine ⟨hbar, ?_, ?_⟩
  · have hthen := lookup?_append_slash hbar " /0| int".toList parcels
    rw [hfirst] at hthen
    exact hthen.trans (by with_unfolding_all rfl)
  · have hthen := lookup?_append_slash hbar "1| int".toList parcels
    rw [hfirst] at hthen
    exact hthen.trans (by with_unfolding_all rfl)

end Value

end FlowRunner
