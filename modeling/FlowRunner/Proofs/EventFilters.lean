import FlowRunner.Operation.Messaging
import FlowRunner.Proofs.SameValues
import FlowRunner.Proofs.WrittenNaturals

/-!
# Filters for events

A filter names places in an event by dotted paths. What is inside an event has such a path when the
keys on the way there hold no points, and within one event the path tells the place, although a key
and a position can have the same text. So an event passes the filter that is made of any places
inside it. No key in an event comes twice, since events are read from text
(`Value.keysDistinct_of_ofJson`).

* `Event.Site.at?_path`: the dotted path of a place leads there.
* `Event.Site.eq_of_path_eq`: places in one event with the same dotted path are the same.
* `Event.passes_iff`: an event passes a filter when every path leads to a value alike.
* `Event.filter_laws`: filters made of places, the order of entries, and filters put together.
-/

namespace FlowRunner

/-- The text of a turn in a dotted path. -/
def Turn.dotted : Turn → String
  | .key name => name
  | .position index => toString index

/-- A turn that a dotted path can name. The positions of a list in memory all fit 64 bits. -/
def Turn.Dottable : Turn → Prop
  | .key name => '.' ∉ name.toList
  | .position index => Reading.fits 64 index = true

instance : DecidablePred Turn.Dottable
  | .key name => inferInstanceAs (Decidable ('.' ∉ name.toList))
  | .position index => inferInstanceAs (Decidable (Reading.fits 64 index = true))

namespace Turn

variable {turn other : Turn}

theorem point_notMem_dotted (h : turn.Dottable) : '.' ∉ turn.dotted.toList := by
  cases turn with
  | key name => exact h
  | position index => exact fun hpoint => nomatch Reading.isDigit_of_mem_toString hpoint

/-- In one value, the text of a turn tells which turn it is. -/
theorem eq_of_dotted_eq {v inner inner' : Value} (h : v.enter? turn = some inner)
    (hother : v.enter? other = some inner') (hdotted : turn.dotted = other.dotted) :
    turn = other := by
  cases turn with
  | key name =>
    cases other with
    | key name' => exact congrArg Turn.key hdotted
    | position index =>
      cases v with
      | object members => cases hother
      | _ => cases h
  | position index =>
    cases other with
    | key name =>
      cases v with
      | list items => cases hother
      | _ => cases h
    | position index' => exact congrArg Turn.position (Reading.toString_nat_injective hdotted)

end Turn

namespace Event

/-! ## Dotted paths -/

/-- The dotted path of a location. -/
def pathOf (location : Location) : String :=
  ".".intercalate (location.map Turn.dotted)

theorem splitOn_pathOf {location : Location} (hne : location ≠ [])
    (h : ∀ turn ∈ location, turn.Dottable) :
    Text.splitOn '.' (pathOf location).toList =
      location.map fun turn => turn.dotted.toList := by
  rw [pathOf, String.toList_intercalate, ← Text.join_eq_intercalate, List.map_map]
  refine Text.splitOn_join (mt List.map_eq_nil_iff.mp hne) (List.forall_mem_map.mpr ?_)
  exact fun turn hturn => Turn.point_notMem_dotted (h turn hturn)

/-- Parts lead where the turns lead that they are the texts of. -/
theorem follow?_dotted {location : Location} (h : ∀ turn ∈ location, turn.Dottable)
    {event v : Value} (hat : event.at? location = some v) :
    follow? (location.map fun turn => turn.dotted.toList) event = some v := by
  induction location generalizing event with
  | nil => exact hat
  | cons turn rest ih =>
    obtain ⟨hturn, hrest⟩ := List.forall_mem_cons.mp h
    obtain ⟨inner, henter, hinner⟩ := Option.bind_eq_some_iff.mp hat
    rw [List.map_cons]
    cases turn with
    | key name =>
      cases event with
      | object members =>
        have hget : Members.get? name members = some inner := henter
        rw [Turn.dotted, follow?, String.ofList_toList, hget, Option.bind_some]
        exact ih hrest hinner
      | _ => cases henter
    | position index =>
      cases event with
      | list items =>
        have hitem : items[index]? = some inner := henter
        rw [Turn.dotted, follow?, Reading.natural?_toString hturn, Option.bind_some, hitem,
          Option.bind_some]
        exact ih hrest hinner
      | _ => cases henter

/-- In one value, the texts of the turns on the way tell the way. -/
theorem location_eq_of_dotted_eq {event v w : Value} {location other : Location}
    (h : event.at? location = some v) (hother : event.at? other = some w)
    (hdotted : location.map (fun turn => turn.dotted.toList) =
      other.map fun turn => turn.dotted.toList) : location = other := by
  induction location generalizing event other with
  | nil => exact (List.map_eq_nil_iff.mp hdotted.symm).symm
  | cons turn rest ih =>
    cases other with
    | nil => cases hdotted
    | cons turn' rest' =>
      obtain ⟨hfirst, hrest⟩ := List.cons.inj hdotted
      obtain ⟨inner, henter, hinner⟩ := Option.bind_eq_some_iff.mp h
      obtain ⟨inner', henter', hinner'⟩ := Option.bind_eq_some_iff.mp hother
      have hturn : turn = turn' := Turn.eq_of_dotted_eq henter henter' (String.toList_inj.mp hfirst)
      subst hturn
      cases henter.symm.trans henter'
      rw [ih hinner hinner' hrest]

/-- What a dotted path leads to is inside the event. -/
theorem exists_location_of_follow? {parts : List (List Char)} {event v : Value}
    (h : follow? parts event = some v) : ∃ location, event.at? location = some v := by
  induction parts generalizing event with
  | nil => exact ⟨[], h⟩
  | cons part rest ih =>
    cases event with
    | object members =>
      obtain ⟨inner, hget, hrest⟩ := Option.bind_eq_some_iff.mp h
      obtain ⟨location, hat⟩ := ih hrest
      refine ⟨.key (String.ofList part) :: location, ?_⟩
      exact Option.bind_eq_some_iff.mpr ⟨inner, hget, hat⟩
    | list items =>
      obtain ⟨inner, hitem, hrest⟩ := Option.bind_eq_some_iff.mp h
      obtain ⟨index, -, hindex⟩ := Option.bind_eq_some_iff.mp hitem
      obtain ⟨location, hat⟩ := ih hrest
      exact ⟨.position index :: location, Option.bind_eq_some_iff.mpr ⟨inner, hindex, hat⟩⟩
    | _ => cases h

/-! ## Places in an event -/

/-- A place inside an event that a dotted path can name, and what stands there. -/
structure Site (event : Value) where
  location : Location
  value : Value
  nonempty : location ≠ []
  dottable : ∀ turn ∈ location, turn.Dottable
  reached : event.at? location = some value

namespace Site

variable {event : Value}

/-- The dotted path of a place. -/
def path (site : Site event) : String :=
  pathOf site.location

theorem at?_path (site : Site event) : at? site.path event = some site.value := by
  rw [at?, path, splitOn_pathOf site.nonempty site.dottable]
  exact follow?_dotted site.dottable site.reached

theorem eq_of_location_eq {site other : Site event} (h : site.location = other.location) :
    site = other := by
  obtain ⟨location, value, hne, hdottable, hreached⟩ := site
  obtain ⟨_, value', hne', hdottable', hreached'⟩ := other
  cases h
  cases hreached.symm.trans hreached'
  rfl

/-- A dotted path names one place in an event. -/
theorem eq_of_path_eq {site other : Site event} (h : site.path = other.path) : site = other := by
  have hparts := congrArg (fun path => Text.splitOn '.' path.toList) h
  simp only [path, splitOn_pathOf site.nonempty site.dottable,
    splitOn_pathOf other.nonempty other.dottable] at hparts
  exact eq_of_location_eq (location_eq_of_dotted_eq site.reached other.reached hparts)

end Site

/-! ## Filters -/

/-- The filter that asks for what stands at places in an event. -/
def filterOn {event : Value} (sites : List (Site event)) : List (String × Value) :=
  sites.map fun site => (site.path, site.value)

theorem distinct_filterOn {event : Value} {sites : List (Site event)} (h : sites.Nodup) :
    Members.Distinct (filterOn sites) := by
  have hkeys : Members.keys (filterOn sites) = sites.map Site.path := List.map_map
  unfold Members.Distinct
  rw [hkeys]
  exact h.map fun _ _ => Site.eq_of_path_eq

theorem passes_iff_forall_mem {filter : List (String × Value)} {event : Value} :
    passes filter event = true ↔
      ∀ entry ∈ filter, ∃ v, at? entry.1 event = some v ∧ v.same entry.2 = true := by
  unfold passes
  rw [List.all_eq_true]
  refine forall₂_congr fun entry _ => ?_
  obtain ⟨path, expected⟩ := entry
  dsimp only
  cases at? path event <;> simp

/-- An event passes a filter when every path leads to a value alike. -/
theorem passes_iff {filter : List (String × Value)} {event : Value} (h : event.KeysDistinct)
    (hfilter : ∀ entry ∈ filter, entry.2.KeysDistinct) :
    passes filter event = true ↔
      ∀ entry ∈ filter, ∃ v, at? entry.1 event = some v ∧ v.Alike entry.2 := by
  rw [passes_iff_forall_mem]
  refine forall₂_congr fun entry hentry => exists_congr fun v => and_congr_right fun hat => ?_
  obtain ⟨location, hlocation⟩ := exists_location_of_follow? hat
  exact Value.same_iff (h.at hlocation) (hfilter entry hentry)

theorem passes_filterOn {event : Value} (h : event.KeysDistinct) (sites : List (Site event)) :
    passes (filterOn sites) event = true := by
  rw [passes_iff_forall_mem]
  refine List.forall_mem_map.mpr fun site _ => ⟨site.value, site.at?_path, ?_⟩
  exact Value.same_self (h.at site.reached)

theorem passes_perm {filter other : List (String × Value)} (h : filter.Perm other)
    (event : Value) : passes other event = passes filter event :=
  h.symm.all_eq

/-- Filters without a common path are put together. -/
theorem passes_merge {f g : List (String × Value)} (hf : Members.Distinct f)
    (hg : Members.Distinct g) (h : (Members.keys f).Disjoint (Members.keys g)) (event : Value) :
    passes (Members.merge f g) event = (passes f event && passes g event) := by
  have hdistinct : Members.Distinct (f ++ g) := by
    unfold Members.Distinct Members.keys
    rw [List.map_append]
    exact hf.append hg h
  rw [Members.merge_of_distinct hdistinct]
  exact List.all_append

/-- What is inside an event makes a filter that the event passes, by dotted paths that are all
different. What an event has to have is a value alike at every path; the order of the entries does
not matter, and two filters without a common path can be put together. -/
theorem filter_laws (event : Value) :
    (event.KeysDistinct →
      (∀ sites : List (Site event), sites.Nodup →
        Members.Distinct (filterOn sites) ∧ passes (filterOn sites) event = true) ∧
      ∀ filter : List (String × Value), (∀ entry ∈ filter, entry.2.KeysDistinct) →
        (passes filter event = true ↔
          ∀ entry ∈ filter, ∃ v, at? entry.1 event = some v ∧ v.Alike entry.2)) ∧
    (∀ filter other : List (String × Value), filter.Perm other →
      passes other event = passes filter event) ∧
    ∀ f g : List (String × Value), Members.Distinct f → Members.Distinct g →
      (Members.keys f).Disjoint (Members.keys g) →
        (passes (Members.merge f g) event = true ↔
          passes f event = true ∧ passes g event = true) := by
  refine ⟨fun h => ⟨fun sites hsites => ?_, fun filter hfilter => passes_iff h hfilter⟩, ?_, ?_⟩
  · exact ⟨distinct_filterOn hsites, passes_filterOn h sites⟩
  · exact fun filter other hperm => passes_perm hperm event
  · intro f g hf hg hdisjoint
    rw [passes_merge hf hg hdisjoint, Bool.and_eq_true]

/-- An event with empty keys and with keys that look like positions. -/
def delivery : Value :=
  .object [("", .list [.object [("0", .text "A1"), ("", .null)]]), ("0", .bool true)]

/-- The text that is innermost in the event. -/
def innermost : Site delivery :=
  ⟨[.key "", .position 0, .key "0"], .text "A1", List.cons_ne_nil _ _, by decide, rfl⟩

/-- What stands beside it. -/
def nameless : Site delivery :=
  ⟨[.key "", .position 0, .key ""], .null, List.cons_ne_nil _ _, by decide, rfl⟩

theorem filter_laws_delivery :
    delivery.KeysDistinct ∧ [innermost, nameless].Nodup ∧
      Members.keys (filterOn [innermost, nameless]) = [".0.0", ".0."] ∧
      Members.Distinct (filterOn [innermost, nameless]) ∧
      passes (filterOn [innermost, nameless]) delivery = true ∧
      passes (filterOn [nameless, innermost]) delivery =
        passes (filterOn [innermost, nameless]) delivery ∧
      (passes (Members.merge (filterOn [innermost]) (filterOn [nameless])) delivery = true ↔
        passes (filterOn [innermost]) delivery = true ∧
          passes (filterOn [nameless]) delivery = true) ∧
      ∃ v, at? ".0" delivery = some v ∧ v.Alike (.object [("", .null), ("0", .text "A1")]) := by
  have hinner : (Value.object [("0", .text "A1"), ("", .null)]).KeysDistinct :=
    Value.keysDistinct_of_leaves (by decide) (by decide)
  have hkeys : delivery.KeysDistinct :=
    Value.keysDistinct_object (by decide) (List.forall_mem_cons.mpr
      ⟨Value.keysDistinct_list (List.forall_mem_singleton.mpr hinner),
        List.forall_mem_singleton.mpr (Value.keysDistinct_of_isLeaf rfl)⟩)
  have hnodup : [innermost, nameless].Nodup :=
    List.Nodup.of_map Site.location (by decide)
  obtain ⟨hevent, hperm, hmerge⟩ := filter_laws delivery
  obtain ⟨hfilterOn, hpasses⟩ := hevent hkeys
  obtain ⟨hdistinct, hpass⟩ := hfilterOn _ hnodup
  have hswap : (filterOn [innermost, nameless]).Perm (filterOn [nameless, innermost]) :=
    List.Perm.swap _ _ _
  have hsides := hmerge (filterOn [innermost]) (filterOn [nameless]) (by decide) (by decide)
    (List.disjoint_left.mpr (by decide +kernel))
  have hreordered := hpasses [(".0", .object [("", .null), ("0", .text "A1")])]
    (List.forall_mem_singleton.mpr (Value.keysDistinct_of_leaves (by decide) (by decide)))
  refine ⟨hkeys, hnodup, by decide +kernel, hdistinct, hpass, hperm _ _ hswap, hsides, ?_⟩
  exact hreordered.mp (by decide +kernel) _ (List.mem_singleton.mpr rfl)

end Event

end FlowRunner
