import FlowRunner.Operation.Cloud
import FlowRunner.Proofs.DistinctKeys

/-!
# Records of a query

The rows of a query come as a table: a header and rows of cells, each of which may be absent, and no
row need be as long as the header. Every row after the header becomes one object, whose columns are
described one by one (`Cloud.Athena.RecordOf`).

* `Cloud.Athena.columns_getElem?`: what a column gives, before names that come twice are put
  together.
* `Cloud.Athena.recordOf_columns`: a name that comes twice keeps its first place and the cell of its
  last column.
* `Cloud.Athena.records_spec`: the objects of a whole table.
-/

namespace FlowRunner

/-- Of several pairs with a key, the last one is found. -/
theorem Members.get?_ofPairs_of_last {α : Type} {pairs before after : List (String × α)}
    {key : String} {value : α} (hpairs : pairs = before ++ (key, value) :: after)
    (hkey : key ∉ keys after) : get? key (ofPairs pairs) = some value := by
  have hfound : get? key pairs.reverse = some value := by
    refine get?_eq_some_iff_exists.mpr ⟨after.reverse, before.reverse, ?_, ?_⟩
    · rw [hpairs, List.reverse_append, List.reverse_cons, List.append_assoc, List.singleton_append]
    · rwa [keys_reverse, List.mem_reverse]
  rw [ofPairs, get?_merge, hfound]
  rfl

theorem Members.keys_ofPairs {α : Type} (pairs : List (String × α)) :
    keys (ofPairs pairs) = (keys pairs).eraseDups := by
  have hall : ((keys pairs).filter fun key => key ∉ keys ([] : List (String × α))) =
      keys pairs := by
    simp
  rw [ofPairs, keys_merge, hall, keys_nil, List.nil_append]

namespace Cloud.Athena

/-- The name that a cell of the header gives its column; without one it is empty. -/
def columnName : Option String → String
  | some name => name
  | none => ""

/-- The names of the columns, from left to right. -/
def columnNames (header : List (Option String)) : List String :=
  header.map columnName

/-- What stands in a column of a row: null where the cell is absent or the row has ended. -/
def cellAt (row : List (Option String)) (index : Nat) : Value :=
  match row[index]? with
  | some (some text) => .text text
  | some none => .null
  | none => .null

/-- A column is the last one of its name. -/
def IsLast (header : List (Option String)) (index : Nat) (name : String) : Prop :=
  (columnNames header)[index]? = some name ∧ name ∉ (columnNames header).drop (index + 1)

/-- The members of the object that stands for a row. -/
structure RecordOf (header row : List (Option String)) (members : List (String × Value)) :
    Prop where
  /-- Each name is a key once, in the order in which the names first appear. -/
  keys : Members.keys members = (columnNames header).eraseDups
  /-- Under a name stands the cell of its last column. -/
  last : ∀ index name, IsLast header index name →
    Members.get? name members = some (cellAt row index)
  /-- Columns with names of their own are all there, each at its place. -/
  placed : (columnNames header).Nodup → members.length = header.length ∧
    ∀ index name, (columnNames header)[index]? = some name →
      members[index]? = some (name, cellAt row index)

/-- The columns of a row under their names, from left to right. -/
def columns (header row : List (Option String)) : List (String × Value) :=
  header.mapIdx fun index column => (columnName column, cellAt row index)

variable (header row : List (Option String))

theorem record_eq : record header row = .object (Members.ofPairs (columns header row)) := by
  have hname : ∀ column : Option String, column.getD "" = columnName column := by
    intro column
    cases column <;> rfl
  have hcell : ∀ index, ((row[index]?.bind id).map Value.text).getD .null = cellAt row index := by
    intro index
    unfold cellAt
    cases row[index]? with
    | none => rfl
    | some cell => cases cell <;> rfl
  simp only [record, columns, hname, hcell]

theorem columns_getElem? (index : Nat) :
    (columns header row)[index]? =
      (columnNames header)[index]?.map fun name => (name, cellAt row index) := by
  rw [columns, List.getElem?_mapIdx, columnNames, List.getElem?_map, Option.map_map]
  rfl

theorem keys_columns : Members.keys (columns header row) = columnNames header := by
  apply List.ext_getElem?
  intro index
  rw [Members.keys, List.getElem?_map, columns_getElem?, Option.map_map]
  exact Option.map_id'

theorem recordOf_columns : RecordOf header row (Members.ofPairs (columns header row)) where
  keys := by rw [Members.keys_ofPairs, keys_columns]
  last := by
    rintro index name ⟨hname, hlater⟩
    have hcolumn : (columns header row)[index]? = some (name, cellAt row index) := by
      rw [columns_getElem?, hname]
      rfl
    obtain ⟨hindex, hget⟩ := List.getElem?_eq_some_iff.mp hcolumn
    have hcut : columns header row = (columns header row).take index ++
        (name, cellAt row index) :: (columns header row).drop (index + 1) := by
      rw [← hget, List.getElem_cons_drop, List.take_append_drop]
    have hkeys : Members.keys ((columns header row).drop (index + 1)) =
        (columnNames header).drop (index + 1) := by
      rw [← keys_columns header row, Members.keys, Members.keys, List.map_drop]
    exact Members.get?_ofPairs_of_last hcut (hkeys ▸ hlater)
  placed := by
    intro hnames
    have hdistinct : Members.Distinct ([] ++ columns header row) := by
      unfold Members.Distinct
      rwa [List.nil_append, keys_columns]
    have hsame : Members.ofPairs (columns header row) = columns header row :=
      Members.merge_of_distinct hdistinct
    rw [hsame]
    refine ⟨List.length_mapIdx, fun index name hname => ?_⟩
    rw [columns_getElem?, hname]
    rfl

/-- Cells behind the last column of the header are not looked at. -/
theorem record_take : record header (row.take header.length) = record header row := by
  rw [record_eq, record_eq, columns, columns]
  have hcolumns : ∀ index, index < header.length →
      cellAt (row.take header.length) index = cellAt row index := by
    intro index hindex
    rw [cellAt, cellAt, List.getElem?_take_of_lt hindex]
  congr 2
  exact List.mapIdx_eq_mapIdx_iff.mpr fun index hindex => by rw [hcolumns index hindex]

/-- A table without a header gives no records. Otherwise there is one for each row after the header,
in their order, and each of them is the record of its row, which what stands behind the header's
last column is no part of. -/
theorem records_spec :
    records [] = .list [] ∧
      ∀ (header : List (Option String)) (rows : List (List (Option String))),
        (∃ objects : List (List (String × Value)),
          records (header :: rows) = .list (objects.map .object) ∧
            List.Forall₂ (RecordOf header) rows objects) ∧
        records (header :: rows.map (List.take header.length)) = records (header :: rows) := by
  refine ⟨rfl, fun header rows => ⟨⟨rows.map fun row => Members.ofPairs (columns header row),
    ?_, ?_⟩, ?_⟩⟩
  · rw [records, List.map_map]
    exact congrArg Value.list (List.map_congr_left fun row _ => record_eq header row)
  · exact List.forall₂_map_right_iff.mpr
      (List.forall₂_same.mpr fun row _ => recordOf_columns header row)
  · rw [records, records, List.map_map]
    exact congrArg Value.list (List.map_congr_left fun row _ => record_take header row)

/-- A name that comes twice, a header cell that is absent, a row that is too long and one that is
too short. -/
example : records [[some "id", none, some "id"], [some "1", some "x", none, some "y"], [some "2"]] =
    .list [.object [("id", .null), ("", .text "x")], .object [("id", .null), ("", .null)]] := by
  rfl

end Cloud.Athena

end FlowRunner
