import FlowRunner.Proofs.WrittenNaturals
import FlowRunner.Response.Path

/-!
# The forms of a segment

A segment of a path is a key alone, or positions in brackets behind a key or behind nothing. Such a
text is read as the segment that it is written for. The brackets are read from the left, up to the
first one that does not follow directly, and a text that goes on there is read as if it ended there.

* `Segment.Form`: a text, the segment that it is written for, and what stands behind its last
  bracket.
* `Segment.ofText?_eq_some_iff`: the texts of these forms are read, and no others.
* `Segment.Form.unique`: a text has one form at most.
-/

namespace FlowRunner

theorem Reading.Unsigned.digit_or_plus {s : List Char} {n : Nat} (h : Reading.Unsigned s n) :
    ∀ c ∈ s, c = '+' ∨ c.isDigit = true := by
  cases h with
  | bare hne hdigits => exact fun c hc => .inr (hdigits c hc)
  | plus hne hdigits => exact List.forall_mem_cons.mpr ⟨.inl rfl, fun c hc => .inr (hdigits c hc)⟩

theorem Reading.Unsigned.ne_nil {s : List Char} {n : Nat} (h : Reading.Unsigned s n) : s ≠ [] := by
  cases h with
  | bare hne hdigits => exact hne
  | plus hne hdigits => exact List.cons_ne_nil _ _

theorem Reading.Unsigned.trim_eq {s : List Char} {n : Nat} (h : Reading.Unsigned s n) :
    Text.trim s = s := by
  refine Text.trim_eq_self_of_forall fun c hc => ?_
  rcases h.digit_or_plus c hc with rfl | hdigit
  · rfl
  · exact Text.isBlank_of_isDigit hdigit

namespace Segment

/-- The inside of a bracket: a position of 64 bits, which may have blanks around it. -/
inductive Inside : List Char → Nat → Prop
  | mk {left digits right : List Char} {index : Nat} (hleft : ∀ c ∈ left, Text.isBlank c = true)
    (hdigits : Reading.Unsigned digits index) (hright : ∀ c ∈ right, Text.isBlank c = true)
    (hfits : Reading.fits 64 index = true) : Inside (left ++ digits ++ right) index

/-- The positions in the brackets at the start of a text, and what stands behind the last bracket,
which does not open another one. -/
inductive Brackets : List Char → List Nat → List Char → Prop
  | done {tail : List Char} (h : tail.head? ≠ some '[') : Brackets tail [] tail
  | next {inside rest tail : List Char} {index : Nat} {indices : List Nat}
    (hinside : Inside inside index) (hrest : Brackets rest indices tail) :
    Brackets ('[' :: (inside ++ ']' :: rest)) (index :: indices) tail

/-- A text that is written for a segment: a key alone, or positions in brackets behind a key or
behind nothing. What stands behind the last bracket is told apart; in a proper segment this is
nothing. -/
inductive Form : List Char → Segment → List Char → Prop
  | key {name : List Char} (h : '[' ∉ name) : Form name ⟨name, []⟩ []
  | indexed {name groups tail : List Char} {index : Nat} {indices : List Nat} (h : '[' ∉ name)
    (hgroups : Brackets groups (index :: indices) tail) :
    Form (name ++ groups) ⟨name, index :: indices⟩ tail

/-! ## Inside of a bracket -/

theorem inside_iff {s : List Char} {index : Nat} :
    Inside s index ↔ position? (Text.trim s) = some index := by
  rw [position?, Reading.natural?_eq_some_iff]
  constructor
  · rintro ⟨hleft, hdigits, hright, hfits⟩
    rw [Text.trim_append hleft hright hdigits.trim_eq hdigits.ne_nil]
    exact ⟨hdigits, hfits⟩
  · rintro ⟨hdigits, hfits⟩
    obtain ⟨left, right, htext, hleft, hright⟩ := Text.exists_trim_eq s
    rw [htext]
    exact .mk hleft hdigits hright hfits

/-- Nothing inside a bracket closes it. -/
theorem Inside.notMem {s : List Char} {index : Nat} (h : Inside s index) : ']' ∉ s := by
  obtain ⟨hleft, hdigits, hright, -⟩ := h
  have hblank : ∀ {blanks : List Char}, (∀ c ∈ blanks, Text.isBlank c = true) → ']' ∉ blanks :=
    fun h hin => absurd (h _ hin) (by decide)
  have hnumber : ']' ∉ _ := fun hin => absurd (hdigits.digit_or_plus _ hin) (by decide)
  simp [hblank hleft, hnumber, hblank hright]

/-! ## Brackets -/

theorem brackets_nil : Brackets [] [] [] :=
  .done (Option.some_ne_none _).symm

theorem Brackets.indices?_eq {s tail : List Char} {indices : List Nat}
    (h : Brackets s indices tail) : indices? s = some indices := by
  induction h with
  | @done tail htail =>
    refine indices?.eq_2 tail ?_
    rintro rest rfl
    exact htail rfl
  | next hinside _ ih =>
    have hcut := Text.cut?_append_cons hinside.notMem
    rw [indices?, hcut]
    dsimp only
    rw [inside_iff.mp hinside]
    dsimp only
    rw [ih, Option.map_some]

theorem exists_brackets {s : List Char} {indices : List Nat} (h : indices? s = some indices) :
    ∃ tail, Brackets s indices tail := by
  fun_induction indices? s generalizing indices with
  | case1 => cases h
  | case2 => cases h
  | case3 rest inside after hcut index hposition ih =>
    obtain ⟨more, hmore, rfl⟩ := Option.map_eq_some_iff.mp h
    obtain ⟨tail, hafter⟩ := ih hmore
    rw [Text.eq_of_cut? hcut]
    exact ⟨tail, .next (inside_iff.mpr hposition) hafter⟩
  | case4 s hopen =>
    cases h
    refine ⟨s, .done fun hhead => ?_⟩
    cases s with
    | nil => cases hhead
    | cons c rest =>
      cases hhead
      exact hopen rest rfl

/-- The text behind the last bracket is the same, however the brackets in front of it are taken
apart. -/
theorem Brackets.unique {s tail tail' : List Char} {indices indices' : List Nat}
    (h : Brackets s indices tail) (h' : Brackets s indices' tail') : tail = tail' := by
  induction h generalizing indices' with
  | done htail =>
    cases h' with
    | done _ => rfl
    | next _ _ => exact absurd rfl htail
  | @next inside rest tail index indices hinside hrest ih =>
    generalize htext : '[' :: (inside ++ ']' :: rest) = s at h'
    cases h' with
    | done htail =>
      subst htext
      exact absurd rfl htail
    | @next inside' rest' _ _ _ hinside' hrest' =>
      -- Both insides end at the first closing bracket.
      have hcut := Text.cut?_append_cons hinside.notMem rest
      rw [List.tail_eq_of_cons_eq htext, Text.cut?_append_cons hinside'.notMem] at hcut
      cases hcut
      exact ih hrest'

/-! ## Segments -/

/-- The key of a segment ends where the first bracket opens. -/
theorem ofText?_append {name groups : List Char} (h : '[' ∉ name)
    (hgroups : groups = [] ∨ groups.head? = some '[') :
    ofText? (name ++ groups) = (indices? groups).map fun indices => ⟨name, indices⟩ := by
  have hbefore : ∀ c ∈ name, (c != '[') = true := by
    intro c hc
    exact bne_iff_ne.mpr fun heq => h (heq ▸ hc)
  have hstop : groups.takeWhile (· != '[') = [] := by
    cases groups with
    | nil => rfl
    | cons c rest =>
      cases hgroups.resolve_left (List.cons_ne_nil _ _)
      rfl
  have hname : (name ++ groups).takeWhile (· != '[') = name := by
    rw [List.takeWhile_append_of_pos hbefore, hstop, List.append_nil]
  unfold ofText?
  dsimp only
  rw [hname, List.drop_left]

theorem Brackets.head?_eq {groups tail : List Char} {index : Nat} {indices : List Nat}
    (h : Brackets groups (index :: indices) tail) : groups.head? = some '[' := by
  cases h
  rfl

theorem Form.exists_brackets {s tail : List Char} {segment : Segment} (h : Form s segment tail) :
    ∃ groups, s = segment.name ++ groups ∧ Brackets groups segment.indices tail := by
  cases h with
  | key h => exact ⟨[], (List.append_nil _).symm, brackets_nil⟩
  | indexed h hgroups => exact ⟨_, rfl, hgroups⟩

theorem Form.ofText?_eq {s tail : List Char} {segment : Segment} (h : Form s segment tail) :
    ofText? s = some segment := by
  cases h with
  | @key name h =>
    have hread := ofText?_append h (.inl rfl)
    rwa [List.append_nil, brackets_nil.indices?_eq, Option.map_some] at hread
  | indexed h hgroups =>
    rw [ofText?_append h (.inr hgroups.head?_eq), hgroups.indices?_eq, Option.map_some]

theorem exists_form {name groups : List Char} {indices : List Nat} (hname : '[' ∉ name)
    (hgroups : groups = [] ∨ groups.head? = some '[') (h : indices? groups = some indices) :
    ∃ tail, Form (name ++ groups) ⟨name, indices⟩ tail := by
  obtain ⟨tail, hbrackets⟩ := exists_brackets h
  cases hbrackets with
  | done htail =>
    rw [hgroups.resolve_right htail, List.append_nil]
    exact ⟨[], .key hname⟩
  | next hinside hrest => exact ⟨tail, .indexed hname (.next hinside hrest)⟩

/-- The texts of segments are read as the segments that they are written for, and no other text is
read. -/
theorem ofText?_eq_some_iff {s : List Char} {segment : Segment} :
    ofText? s = some segment ↔ ∃ tail, Form s segment tail := by
  refine ⟨fun h => ?_, fun ⟨tail, h⟩ => h.ofText?_eq⟩
  have hname : '[' ∉ s.takeWhile (· != '[') :=
    fun hin => absurd (List.mem_takeWhile_imp hin) (by decide)
  have hgroups : s.dropWhile (· != '[') = [] ∨ (s.dropWhile (· != '[')).head? = some '[' := by
    have hhead := List.head?_dropWhile_not (· != '[') s
    cases hdrop : s.dropWhile (· != '[') with
    | nil => exact .inl rfl
    | cons c rest =>
      rw [hdrop] at hhead
      exact .inr (congrArg some (by simpa using hhead))
  have htext : s.takeWhile (· != '[') ++ s.dropWhile (· != '[') = s :=
    List.takeWhile_append_dropWhile
  rw [← htext, ofText?_append hname hgroups] at h
  obtain ⟨indices, hindices, rfl⟩ := Option.map_eq_some_iff.mp h
  have hform := exists_form hname hgroups hindices
  rwa [htext] at hform

/-- A text has one form at most. -/
theorem Form.unique {s tail tail' : List Char} {segment segment' : Segment}
    (h : Form s segment tail) (h' : Form s segment' tail') : segment = segment' ∧ tail = tail' := by
  have hsegment : segment = segment' := by
    have hread := h.ofText?_eq
    rw [h'.ofText?_eq] at hread
    exact (Option.some.inj hread).symm
  subst hsegment
  obtain ⟨groups, htext, hgroups⟩ := h.exists_brackets
  obtain ⟨groups', htext', hgroups'⟩ := h'.exists_brackets
  have hsame : groups = groups' := List.append_cancel_left (htext.symm.trans htext')
  exact ⟨rfl, hgroups.unique (hsame ▸ hgroups')⟩

end Segment

end FlowRunner
