import Copybook.Output
import Copybook.Proofs.Files

/-!
Tables that are filled row by row. Each row has all columns of the table and no others, so that an
export stops at none of them and holds every text of the table. -/
namespace Copybook
namespace Association

variable {α β : Type} [BEq α] [LawfulBEq α]

/-- When each key has its own value, it does not matter how often it is put. -/
theorem find?_foldl_put (f : α → β) (keys : List α) (done : List (α × β)) (key : α) :
    find? key ((keys.map fun k => (k, f k)).foldl (fun done entry => put entry.1 entry.2 done) done) =
      if key ∈ keys then some (f key) else find? key done := by
  induction keys generalizing done with
  | nil => simp
  | cons k rest ih =>
    rw [List.map_cons, List.foldl_cons, ih, find?_put]
    by_cases hrest : key ∈ rest
    · simp [hrest]
    · by_cases hk : k = key
      · simp [hk]
      · simp [hrest, hk, Ne.symm hk]

end Association

namespace TypeTable

def filled (columns : List Text) (values : List TypeRow) : TypeTable :=
  values.foldl add ⟨columns, []⟩

def cells (columns : List Text) (row : TypeRow) : List Text := columns.map (cell row)

def rowOf (columns texts : List Text) : TypeRow := Association.ofList (columns.zip texts)

variable {columns : List Text} {values : List TypeRow} {row : TypeRow}

theorem rowOf_map (columns : List Text) (f : Text → Text) :
    rowOf columns (columns.map f) = Association.ofList (columns.map fun column => (column, f column)) := by
  rw [rowOf, List.zip_map_right, List.zip_eq_zipWith, List.map_zipWith, List.zipWith_self]
  rfl

theorem foldl_add (rows : List TypeRow) :
    values.foldl add ⟨columns, rows⟩ =
      ⟨columns, rows ++ values.map fun row => rowOf columns (cells columns row)⟩ := by
  induction values generalizing rows with
  | nil => simp
  | cons first rest ih =>
    have hadd : add ⟨columns, rows⟩ first =
        ⟨columns, rows ++ [rowOf columns (cells columns first)]⟩ := by
      rw [cells, rowOf_map]
      rfl
    rw [List.foldl_cons, hadd, ih, List.map_cons, List.append_assoc, List.singleton_append]

theorem filled_eq (columns : List Text) (values : List TypeRow) : filled columns values =
    ⟨columns, values.map fun row => rowOf columns (cells columns row)⟩ := by
  rw [filled, foldl_add, List.nil_append]

theorem find?_rowOf (f : Text → Text) (column : Text) :
    Association.find? column (rowOf columns (columns.map f)) =
      if column ∈ columns then some (f column) else none := by
  rw [rowOf_map, Association.ofList, Association.find?_foldl_put, Association.find?]

theorem cells_rowOf (f : Text → Text) :
    cells columns (rowOf columns (columns.map f)) = columns.map f := by
  refine List.map_congr_left fun column hcolumn => ?_
  rw [cell, find?_rowOf, if_pos hcolumn, Option.getD_some]

theorem rowOf_cells (h : row ∈ (filled columns values).rows) : rowOf columns (cells columns row) = row := by
  rw [filled_eq] at h
  obtain ⟨value, -, rfl⟩ := List.mem_map.mp h
  exact congrArg (rowOf columns) (cells_rowOf (cell value))

theorem mem_columns_of_filled (h : row ∈ (filled columns values).rows) {entry : Text × Text}
    (hentry : entry ∈ row) : entry.1 ∈ columns := by
  have hkey : entry.1 ∈ row.map (·.1) := List.mem_map_of_mem hentry
  rw [← rowOf_cells h, cells, ← Association.find?_isSome_iff, find?_rowOf] at hkey
  by_contra hnot
  simp [hnot] at hkey

theorem mem_of_mem_cells (h : row ∈ (filled columns values).rows) {text : Text}
    (htext : text ∈ cells columns row) : ∃ entry ∈ row, entry.2 = text := by
  obtain ⟨column, hcolumn, rfl⟩ := List.mem_map.mp htext
  have hfound : Association.find? column (rowOf columns (cells columns row)) =
      some (cell row column) := by rw [cells, find?_rowOf, if_pos hcolumn]
  rw [rowOf_cells h] at hfound
  exact List.mem_map.mp (Association.mem_of_find?_eq_some hfound)

theorem eq_zip_of_nodup (hcolumns : columns.Nodup) (h : row ∈ (filled columns values).rows) :
    row = columns.zip (cells columns row) := by
  have hlength : columns.length = (cells columns row).length := by rw [cells, List.length_map]
  have hkeys : (columns.zip (cells columns row)).map (·.1) = columns :=
    List.map_fst_zip (Nat.le_of_eq hlength)
  conv_lhs => rw [← rowOf_cells h]
  rw [rowOf, Association.ofList_eq_self (by rwa [hkeys])]

/-! ### Exports -/

variable {t : TypeTable} {lineEnd : Text} {rows : List TypeRow}

/-- An export that does not stop holds all rows. -/
theorem text_exportRows (h : (t.exportRows lineEnd rows).strangers = none) :
    (t.exportRows lineEnd rows).text = Csv.write lineEnd (rows.map (cells t.columns)) := by
  induction rows with
  | nil => rfl
  | cons row rest ih =>
    cases hnames : t.strangers row with
    | nil =>
      simp only [exportRows, hnames] at h ⊢
      rw [ih h]
      rfl
    | cons name names => simp [exportRows, hnames] at h

theorem text_exported (h : (t.exported lineEnd).strangers = none) :
    (t.exported lineEnd).text =
      Csv.write lineEnd (t.columns :: t.rows.map (cells t.columns)) := by
  rw [exported, text_exportRows h]
  rfl

theorem strangers_exportRows (h : ∀ row ∈ rows, t.strangers row = []) :
    (t.exportRows lineEnd rows).strangers = none := by
  induction rows with
  | nil => rfl
  | cons row rest ih =>
    obtain ⟨hrow, hrest⟩ := List.forall_mem_cons.mp h
    simp only [exportRows, hrow]
    exact ih hrest

theorem strangers_exported_filled (columns : List Text) (values : List TypeRow) (lineEnd : Text) :
    ((filled columns values).exported lineEnd).strangers = none := by
  refine strangers_exportRows fun row hrow => List.filter_eq_nil_iff.mpr fun name hname => ?_
  obtain ⟨entry, hentry, rfl⟩ := List.mem_map.mp hname
  have hcolumn := mem_columns_of_filled hrow hentry
  simpa [filled_eq] using hcolumn

end TypeTable

namespace Output

theorem read_write {files : Files.Tree} {path : Path} {text : Text} {flaw : Option Fault}
    (h : (write files path text flaw).fault = none) :
    (write files path text flaw).files.read path = .ok (Encoding.encodeUtf8 text) := by
  unfold write at h ⊢
  generalize files.ensureDirectories path.parent = made at h ⊢
  obtain ⟨made, _ | fault⟩ := made
  · dsimp only at h ⊢
    cases hwrite : made.write path (Encoding.encodeUtf8 text) with
    | error fault => simp [hwrite] at h
    | ok written => exact Files.Tree.read_write hwrite
  · cases h

/-- A type table that has been written without a fault has been written to its end. -/
theorem strangers_of_writeTypes {files : Files.Tree} {path : Path} {table : TypeTable}
    (h : (writeTypes files path table).fault = none) :
    (table.exported ['\r', '\n']).strangers = none := by
  unfold writeTypes write at h
  dsimp only at h
  generalize files.ensureDirectories path.parent = made at h
  obtain ⟨made, _ | fault⟩ := made
  · dsimp only at h
    split at h
    · cases h
    · exact Option.map_eq_none_iff.mp h
  · cases h

end Output
end Copybook
