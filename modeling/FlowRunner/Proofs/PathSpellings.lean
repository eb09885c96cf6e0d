import FlowRunner.Proofs.Locations
import FlowRunner.Proofs.SpelledSegments

/-!
# Spellings of a location

A location can be written as a path in many ways. A key is always a piece of its own, but a position
may stand in brackets behind the piece before it, or in brackets as a piece, or in digits as a piece
(`Spelling`). Whatever is chosen for each position, the path leads to what stands at the location
(`Value.lookup?_spell`).

A piece of digits is a key in an object and a position in a list, so the choice does not matter only
because something stands at the location. At a location with nothing there, the path may find a key.
-/

namespace FlowRunner

/-- One step into a value, as it is written in a path. -/
inductive Spelling
  /-- A key, as a piece of its own. -/
  | key (name : String)
  /-- A position in brackets that belongs to the piece before it. -/
  | attached (index : Nat)
  /-- A position in brackets as a piece of its own. -/
  | apart (index : Nat)
  /-- A position in digits as a piece of its own. -/
  | digits (index : Nat)
  deriving DecidableEq, Repr

namespace Spelling

/-- The step that is written. -/
def turn : Spelling → Turn
  | key name => .key name
  | attached index => .position index
  | apart index => .position index
  | digits index => .position index

/-- The segment that begins with a step. At the start of a path, where there is no piece before it,
an attached position is one too. -/
def segment : Spelling → Segment
  | key name => ⟨name.toList, []⟩
  | attached index => ⟨[], [index]⟩
  | apart index => ⟨[], [index]⟩
  | digits index => ⟨(toString index).toList, []⟩

/-- A key that a path keeps as it is, or a position. The positions of a list in memory all fit 64
bits. -/
def Spellable : Spelling → Prop
  | key name => Segment.SpellableName name.toList
  | attached index => Reading.fits 64 index = true
  | apart index => Reading.fits 64 index = true
  | digits index => Reading.fits 64 index = true

instance : DecidablePred Spellable
  | key name => inferInstanceAs (Decidable (Segment.SpellableName name.toList))
  | attached index => inferInstanceAs (Decidable (Reading.fits 64 index = true))
  | apart index => inferInstanceAs (Decidable (Reading.fits 64 index = true))
  | digits index => inferInstanceAs (Decidable (Reading.fits 64 index = true))

end Spelling

namespace Segment

/-- The segments of a path that goes on from a segment: an attached position belongs to the last
one, and every other step begins a new one. -/
def through (segment : Segment) : List Spelling → List Segment
  | [] => [segment]
  | .attached index :: rest => through ⟨segment.name, segment.indices ++ [index]⟩ rest
  | spelling :: rest => segment :: through spelling.segment rest

end Segment

/-- The text of a path that is written in this way: the pieces with slashes between them. -/
def Path.spell : List Spelling → List Char
  | [] => []
  | first :: rest => Text.join ['/'] ((first.segment.through rest).map Segment.spelled)

/-! ## Single steps -/

theorem Segment.spellableName_toString (index : Nat) :
    SpellableName (toString index).toList := by
  have hdigits := Reading.unsigned_toString index
  have hchars : ∀ c ∈ (toString index).toList, c.isDigit = true :=
    fun c => Reading.isDigit_of_mem_toString
  refine ⟨hdigits.ne_nil, hdigits.trim_eq, ?_, ?_, ?_⟩
  · exact fun hin => absurd (hchars _ hin) (by decide)
  · exact fun hin => absurd (hchars _ hin) (by decide)
  · exact fun hin => absurd (hchars _ hin) (by decide)

/-- A segment without brackets enters a value by its name. -/
theorem Segment.follow?_name {name : List Char} (h : name ≠ []) (v : Value) :
    follow? ⟨name, []⟩ v = enter? name v := by
  have hname : name.isEmpty = false := by simpa using h
  rw [follow?, List.foldl_nil, hname, if_neg Bool.false_ne_true]

namespace Spelling.Spellable

variable {spelling : Spelling}

theorem segment (h : spelling.Spellable) : spelling.segment.Spellable := by
  cases spelling with
  | key name => exact ⟨.inr h, List.forall_mem_nil _⟩
  | attached index => exact ⟨.inl ⟨rfl, List.cons_ne_nil _ _⟩, List.forall_mem_singleton.mpr h⟩
  | apart index => exact ⟨.inl ⟨rfl, List.cons_ne_nil _ _⟩, List.forall_mem_singleton.mpr h⟩
  | digits index => exact ⟨.inr (Segment.spellableName_toString index), List.forall_mem_nil _⟩

/-- Where a step leads somewhere, so does the segment that it begins. In an object there are no
positions, and in a list no keys. -/
theorem follow?_segment (h : spelling.Spellable) {v inner : Value}
    (henter : v.enter? spelling.turn = some inner) : spelling.segment.follow? v = some inner := by
  cases spelling with
  | key name =>
    rw [Spelling.segment, Segment.follow?_name h.nonempty]
    cases v with
    | object members =>
      rw [Segment.enter?, String.ofList_toList]
      exact henter
    | _ => cases henter
  | attached index => exact henter
  | apart index => exact henter
  | digits index =>
    rw [Spelling.segment, Segment.follow?_name (Reading.toList_toString_ne_nil index)]
    cases v with
    | list items =>
      rw [Segment.enter?, Segment.position?, Reading.natural?_toString h]
      exact henter
    | _ => cases henter

end Spelling.Spellable

/-! ## Whole paths -/

namespace Segment

theorem through_ne_nil (segment : Segment) (spellings : List Spelling) :
    segment.through spellings ≠ [] := by
  induction spellings generalizing segment with
  | nil => exact List.cons_ne_nil _ _
  | cons spelling rest ih =>
    cases spelling with
    | attached index => exact ih _
    | _ => exact List.cons_ne_nil _ _

theorem Spellable.through {segment : Segment} (h : segment.Spellable) {spellings : List Spelling}
    (hspellings : ∀ spelling ∈ spellings, spelling.Spellable) :
    ∀ other ∈ segment.through spellings, other.Spellable := by
  induction spellings generalizing segment with
  | nil => exact List.forall_mem_singleton.mpr h
  | cons spelling rest ih =>
    obtain ⟨hspelling, hrest⟩ := List.forall_mem_cons.mp hspellings
    cases spelling with
    | attached index => exact ih (h.concat hspelling) hrest
    | _ => exact List.forall_mem_cons.mpr ⟨h, ih hspelling.segment hrest⟩

end Segment

/-- The segments of a path lead to what stands at the location behind the first of them. -/
theorem Path.follow?_through {spellings : List Spelling}
    (h : ∀ spelling ∈ spellings, spelling.Spellable) {segment : Segment} {v found : Value}
    (hfound : ((segment.follow? v).bind fun inner => inner.at? (spellings.map Spelling.turn)) =
      some found) : follow? (segment.through spellings) v = some found := by
  induction spellings generalizing segment v with
  | nil => exact hfound
  | cons spelling rest ih =>
    obtain ⟨hspelling, hrest⟩ := List.forall_mem_cons.mp h
    obtain ⟨inner, hinner, hat⟩ := Option.bind_eq_some_iff.mp hfound
    obtain ⟨next, henter, hnext⟩ := Option.bind_eq_some_iff.mp hat
    -- An attached position is followed with the segment that it belongs to.
    have hattached : ∀ index, Value.item? index inner = some next →
        follow? (Segment.through ⟨segment.name, segment.indices ++ [index]⟩ rest) v =
          some found := by
      intro index hitem
      refine ih hrest ?_
      rw [Segment.follow?_concat, hinner, Option.bind_some, hitem]
      exact hnext
    have hbegun : follow? (segment :: spelling.segment.through rest) v = some found := by
      rw [follow?, hinner, Option.bind_some]
      refine ih hrest ?_
      rw [hspelling.follow?_segment henter]
      exact hnext
    cases spelling with
    | attached index => exact hattached index henter
    | _ => exact hbegun

/-- However a location is written as a path, the path leads to what stands there. -/
theorem Value.lookup?_spell {spellings : List Spelling}
    (h : ∀ spelling ∈ spellings, spelling.Spellable) {v found : Value}
    (hat : v.at? (spellings.map Spelling.turn) = some found) :
    v.lookup? (Path.spell spellings) = some found := by
  cases spellings with
  | nil =>
    rw [Path.spell, lookup?_of_notMem List.not_mem_nil]
    exact hat
  | cons first rest =>
    obtain ⟨hfirst, hrest⟩ := List.forall_mem_cons.mp h
    obtain ⟨inner, henter, hinner⟩ := Option.bind_eq_some_iff.mp hat
    rw [Path.spell, lookup?_join (first.segment.through_ne_nil rest) (hfirst.segment.through hrest)]
    refine Path.follow?_through hrest ?_
    rw [hfirst.follow?_segment henter]
    exact hinner

namespace Spelling

/-- A list with keys further in that look like a position and like a bracket. -/
def board : Value :=
  .list [.object [("0", .list [.null, .list [.list [.object [("a ]", .text "here")]]]])]]

/-- A way to the text in the list, with every kind of step. -/
def way : List Spelling :=
  [.attached 0, .key "0", .digits 1, .attached 0, .apart 0, .key "a ]"]

theorem lookup?_spell_board :
    (∀ spelling ∈ way, spelling.Spellable) ∧
      board.at? (way.map turn) = some (.text "here") ∧
      Path.spell way = "[0]/0/1[0]/[0]/a ]".toList ∧
      board.lookup? "[0]/0/1[0]/[0]/a ]".toList = some (.text "here") := by
  have hspellable : ∀ spelling ∈ way, spelling.Spellable := by decide +kernel
  have hat : board.at? (way.map turn) = some (.text "here") := rfl
  have hspell : Path.spell way = "[0]/0/1[0]/[0]/a ]".toList := by decide +kernel
  have hfound := Value.lookup?_spell hspellable hat
  rw [hspell] at hfound
  exact ⟨hspellable, hat, hspell, hfound⟩

end Spelling

end FlowRunner
