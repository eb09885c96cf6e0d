import FlowRunner.Proofs.FirstMismatch
import FlowRunner.Proofs.PathSpellings

/-!
# Locations written as paths

Messages name a location by a text, in which keys follow a slash and positions stand in brackets. A
path expression is read by segments, and a segment is a key with the brackets after it. So a location
is cut into segments first (`Segment.along`), and these are what its text is made of.

* `Path.follow?_along`: the segments of a location lead where the location leads.
* `Value.lookup?_text`: in every value, the text of a location reads what stands there.

All of this is for keys that a path can spell (`Segment.PlainName`). Any other key is cut at the
wrong place, or loses its blanks, or is taken for a position.
-/

namespace FlowRunner

/-! ## Segments -/

namespace Segment

/-- A key that a path can spell. -/
@[mk_iff]
structure PlainName (name : List Char) : Prop where
  nonempty : name ≠ []
  trimmed : Text.trim name = name
  slash : '/' ∉ name
  bracket : '[' ∉ name
  bar : '|' ∉ name
  notPosition : position? name = none

instance (name : List Char) : Decidable (PlainName name) :=
  decidable_of_iff' _ (plainName_iff name)

theorem PlainName.spellable {name : List Char} (h : PlainName name) : SpellableName name :=
  ⟨h.nonempty, h.trimmed, h.slash, h.bracket, h.bar⟩

theorem ofList_spelled_concat (segment : Segment) (index : Nat) :
    String.ofList segment.spelled ++ "[" ++ toString index ++ "]" =
      String.ofList (spelled ⟨segment.name, segment.indices ++ [index]⟩) := by
  simp [spelled, bracketed, String.ext_iff]

end Segment

/-- A turn that a path can spell. The positions of a list in memory all fit 64 bits. -/
def Turn.Plain : Turn → Prop
  | .key name => Segment.PlainName name.toList
  | .position index => Reading.fits 64 index = true

instance : DecidablePred Turn.Plain
  | .key name => inferInstanceAs (Decidable (Segment.PlainName name.toList))
  | .position index => inferInstanceAs (Decidable (Reading.fits 64 index = true))

/-- The segment that a turn begins. -/
def Turn.segment : Turn → Segment
  | .key name => ⟨name.toList, []⟩
  | .position index => ⟨[], [index]⟩

/-- The text of a location puts a position behind the piece before it. -/
def Turn.spelling : Turn → Spelling
  | .key name => .key name
  | .position index => .attached index

theorem Turn.segment_spelling (turn : Turn) : turn.spelling.segment = turn.segment := by
  cases turn <;> rfl

namespace Segment

/-- The segments of a location that goes on from a segment: a key begins a new one, a position
belongs to the last one. -/
def along (segment : Segment) : Location → List Segment
  | [] => [segment]
  | .key name :: rest => segment :: along (Turn.key name).segment rest
  | .position index :: rest => along ⟨segment.name, segment.indices ++ [index]⟩ rest

/-- The text of a location is one of the ways to write it. -/
theorem along_eq_through (segment : Segment) (location : Location) :
    segment.along location = segment.through (location.map Turn.spelling) := by
  induction location generalizing segment with
  | nil => rfl
  | cons turn rest ih =>
    cases turn with
    | key name => exact congrArg _ (ih _)
    | position index => exact ih _

theorem along_ne_nil (segment : Segment) (location : Location) : segment.along location ≠ [] := by
  rw [along_eq_through]
  exact segment.through_ne_nil _

end Segment

namespace Turn.Plain

variable {turn : Turn}

theorem spelling (h : turn.Plain) : turn.spelling.Spellable := by
  cases turn with
  | key name => exact Segment.PlainName.spellable h
  | position index => exact h

theorem segment (h : turn.Plain) : turn.segment.Spellable :=
  turn.segment_spelling ▸ h.spelling.segment

/-- A key that is not read as a position leads nowhere in a list. -/
theorem follow?_segment (h : turn.Plain) (v : Value) : turn.segment.follow? v = v.enter? turn := by
  cases turn with
  | key name =>
    have hmember : Segment.enter? name.toList v = v.member? name := by
      cases v with
      | list items => rw [Segment.enter?, h.notPosition]; rfl
      | object members => rw [Segment.enter?, String.ofList_toList]; rfl
      | _ => rfl
    rw [Turn.segment, Segment.follow?_name h.nonempty, hmember]
    rfl
  | position index => rfl

end Turn.Plain

namespace Segment

variable {segment : Segment} {location : Location}

theorem Spellable.along (h : segment.Spellable) (hlocation : ∀ turn ∈ location, turn.Plain) :
    ∀ other ∈ segment.along location, other.Spellable := by
  rw [along_eq_through]
  exact h.through (List.forall_mem_map.mpr fun turn hturn => (hlocation turn hturn).spelling)

end Segment

/-! ## Paths -/

namespace Path

/-- The segments of a location lead where the location leads. -/
theorem follow?_along {location : Location} (h : ∀ turn ∈ location, turn.Plain)
    (segment : Segment) (v : Value) :
    follow? (segment.along location) v =
      (segment.follow? v).bind fun inner => inner.at? location := by
  induction location generalizing segment v with
  | nil => rfl
  | cons turn rest ih =>
    obtain ⟨hturn, hrest⟩ := List.forall_mem_cons.mp h
    cases turn with
    | key name =>
      rw [Segment.along, follow?]
      refine congrArg _ (funext fun inner => ?_)
      rw [ih hrest, hturn.follow?_segment, Value.at?_cons]
    | position index =>
      rw [Segment.along, ih hrest, Segment.follow?_concat, Option.bind_assoc]
      rfl

end Path

/-! ## Texts of locations -/

namespace Location

theorem textAfter_ne_empty {start : String} (h : start ≠ "") (location : Location) :
    textAfter start location ≠ "" := by
  induction location generalizing start with
  | nil => exact h
  | cons turn rest ih =>
    cases turn with
    | key name =>
      rw [textAfter, if_neg (mt String.isEmpty_iff.mp h)]
      exact ih (by simp)
    | position index => exact ih (by simp)

theorem textAfter_append (start : String) {path : String} (h : path ≠ "") (location : Location) :
    textAfter (start ++ path) location = start ++ textAfter path location := by
  induction location generalizing path with
  | nil => rfl
  | cons turn rest ih =>
    cases turn with
    | key name =>
      have hwhole : ¬ (start ++ path).isEmpty = true := by simp [h]
      have hassoc : start ++ path ++ "/" ++ name = start ++ (path ++ "/" ++ name) := by
        simp only [String.append_assoc]
      rw [textAfter, if_neg hwhole, hassoc, ih (by simp), textAfter,
        if_neg (mt String.isEmpty_iff.mp h)]
    | position index =>
      have hassoc : start ++ path ++ "[" ++ toString index ++ "]" =
          start ++ (path ++ "[" ++ toString index ++ "]") := by
        simp only [String.append_assoc]
      rw [textAfter, hassoc, ih (by simp), textAfter]

/-- The text of a location is that of its segments. -/
theorem toList_textAfter {segment : Segment} {location : Location} (h : segment.Spellable)
    (hlocation : ∀ turn ∈ location, turn.Plain) :
    (textAfter (String.ofList segment.spelled) location).toList =
      Text.join ['/'] ((segment.along location).map Segment.spelled) := by
  induction location generalizing segment with
  | nil => simp [textAfter, Segment.along, Text.join]
  | cons turn rest ih =>
    obtain ⟨hturn, hrest⟩ := List.forall_mem_cons.mp hlocation
    cases turn with
    | key name =>
      -- The text so far stays in front, and the segment of the key starts anew after the slash.
      have hstart : ¬ (String.ofList segment.spelled).isEmpty = true := by
        simpa using h.spelled_ne_nil
      have hname : String.ofList (Turn.key name).segment.spelled = name := by
        simp [Turn.segment, Segment.spelled]
      have hpath : name ≠ "" := by simpa using hturn.nonempty
      have hpieces : ((Turn.key name).segment.along rest).map Segment.spelled ≠ [] :=
        mt List.map_eq_nil_iff.mp (Segment.along_ne_nil _ _)
      rw [textAfter, if_neg hstart, textAfter_append _ hpath, Segment.along, List.map_cons,
        Text.join_cons _ _ hpieces, ← ih hturn.segment hrest, hname, String.toList_append,
        String.toList_append, String.toList_ofList]
      rfl
    | position index =>
      rw [textAfter, Segment.ofList_spelled_concat, Segment.along, ih (h.concat hturn) hrest]

theorem text_cons {turn : Turn} (h : turn.Plain) (rest : Location) :
    text (turn :: rest) = textAfter (String.ofList turn.segment.spelled) rest := by
  have hstart : textAfter "" (turn :: rest) =
      textAfter (String.ofList turn.segment.spelled) rest := by
    cases turn with
    | key name => simp [textAfter, Turn.segment, Segment.spelled]
    | position index =>
      exact congrArg (textAfter · rest) (Segment.ofList_spelled_concat ⟨[], []⟩ index)
  have hne : String.ofList turn.segment.spelled ≠ "" := by
    simpa using h.segment.spelled_ne_nil
  rw [text, hstart, if_neg (mt String.isEmpty_iff.mp (textAfter_ne_empty hne rest))]

end Location

/-- The text of a location, read as a path, leads to what stands there. -/
theorem Value.lookup?_text {location : Location} (hne : location ≠ [])
    (h : ∀ turn ∈ location, turn.Plain) (v : Value) :
    v.lookup? location.text.toList = v.at? location := by
  obtain ⟨turn, rest, rfl⟩ := List.exists_cons_of_ne_nil hne
  obtain ⟨hturn, hrest⟩ := List.forall_mem_cons.mp h
  have hspellable := hturn.segment.along hrest
  rw [Location.text_cons hturn, Location.toList_textAfter hturn.segment hrest,
    lookup?_join (Segment.along_ne_nil turn.segment rest) hspellable, Path.follow?_along hrest,
    hturn.follow?_segment, at?_cons]

end FlowRunner
