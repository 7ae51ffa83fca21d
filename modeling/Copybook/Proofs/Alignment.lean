import Copybook.Proofs.Csv
import Copybook.Proofs.Filling
import Copybook.Proofs.Quotation

/-!
Aligned tables. The lines of a table that is shown as text have their blanks at the end taken away.
Filled up again with blanks, they show each text at the place of its column, and the dashes of the
second line tell the places, so that the table is read back from the text. -/
namespace Copybook
namespace Text

/-! ### Filling up with blanks -/

/-- The first text becomes the second one when it is filled up with spaces. -/
def Fills (t u : Text) : Prop := ∃ n, u = t ++ List.replicate n ' '

variable {s t u : Text}

theorem isBlankText_replicate (n : Nat) : IsBlankText (List.replicate n ' ') := by
  intro c hc
  rw [List.eq_of_mem_replicate hc]
  rfl

theorem fills_padRight (n : Nat) (t : Text) : Fills t (padRight n t) := ⟨_, rfl⟩

theorem Fills.trans (h : Fills s t) (h' : Fills t u) : Fills s u := by
  obtain ⟨n, rfl⟩ := h
  obtain ⟨m, rfl⟩ := h'
  exact ⟨n + m, by rw [List.replicate_add, List.append_assoc]⟩

theorem Fills.append (h : Fills t u) (s : Text) : Fills (s ++ t) (s ++ u) := by
  obtain ⟨n, rfl⟩ := h
  exact ⟨n, (List.append_assoc _ _ _).symm⟩

theorem Fills.take (h : Fills t u) (n : Nat) : Fills (t.take n) (u.take n) := by
  obtain ⟨m, rfl⟩ := h
  exact ⟨min (n - t.length) m, by rw [List.take_append, List.take_replicate]⟩

theorem Fills.drop (h : Fills t u) (n : Nat) : Fills (t.drop n) (u.drop n) := by
  obtain ⟨m, rfl⟩ := h
  exact ⟨m - (n - t.length), by rw [List.drop_append, List.drop_replicate]⟩

theorem Fills.padRight_eq (h : Fills t u) : padRight u.length t = u := by
  obtain ⟨n, rfl⟩ := h
  simp [padRight]

theorem Fills.words_eq (h : Fills t u) : u.words = t.words := by
  obtain ⟨n, rfl⟩ := h
  exact words_append_gap t (isBlankText_replicate n)

theorem Fills.mem (h : Fills t u) {c : Char} (hc : c ∈ u) : c ∈ t ∨ c = ' ' := by
  obtain ⟨n, rfl⟩ := h
  exact (List.mem_append.mp hc).imp_right List.eq_of_mem_replicate

theorem Fills.trimEnd_eq (h : Fills t u) : trimEnd u = trimEnd t := by
  obtain ⟨n, rfl⟩ := h
  exact trimEnd_append_blanks t (isBlankText_replicate n)

theorem fills_trimEnd_append (hs : Fills (trimEnd s) s) (ht : Fills (trimEnd t) t) :
    Fills (trimEnd (s ++ t)) (s ++ t) := by
  by_cases hempty : trimEnd t = []
  · rw [hempty] at ht
    obtain ⟨n, hn⟩ := ht
    have hfills : Fills s (s ++ t) := ⟨n, by rw [hn, List.nil_append]⟩
    rw [hfills.trimEnd_eq]
    exact hs.trans hfills
  · have hsolid := (endsSolid_trimEnd hempty).append s
    have hwhole : trimEnd (s ++ trimEnd t) = s ++ trimEnd t := by
      simpa using trimEnd_append hsolid isBlankText_nil
    rw [(ht.append s).trimEnd_eq, hwhole]
    exact ht.append s

end Text

namespace TypeTable

open Text (Fills padRight trimEnd)

/-! ### Lines -/

/-- Texts that a table can show: on a line of its own, and with no blanks at the end. -/
structure IsShowable (t : Text) : Prop where
  unbroken : '\n' ∉ t
  trimmed : trimEnd t = t

instance (t : Text) : Decidable (IsShowable t) :=
  decidable_of_iff ('\n' ∉ t ∧ trimEnd t = t) ⟨fun h => ⟨h.1, h.2⟩, fun h => ⟨h.1, h.2⟩⟩

/-- The place of a column behind columns of the given widths, with two blanks behind each. -/
def offset : List Nat → Nat → Nat
  | width :: widths, j + 1 => width + 2 + offset widths j
  | _, _ => 0

def HaveRoom (cells : List (Text × Nat)) : Prop :=
  ∀ cell ∈ cells, cell.1.length ≤ cell.2 ∧ trimEnd cell.1 = cell.1

def spread (cells : List (Text × Nat)) : Text := cells.flatMap fun cell => padRight (cell.2 + 2) cell.1

variable {cells : List (Text × Nat)}

theorem spread_cons (cell : Text × Nat) (rest : List (Text × Nat)) :
    spread (cell :: rest) = padRight (cell.2 + 2) cell.1 ++ spread rest := List.flatMap_cons

theorem length_padRight {t : Text} {n : Nat} (h : t.length ≤ n) : (padRight n t).length = n := by
  simp [padRight]
  omega

theorem padRight_add_two {t : Text} {n : Nat} (h : t.length ≤ n) :
    padRight (n + 2) t = padRight n t ++ [' ', ' '] := by
  rw [padRight, padRight, List.append_assoc, Nat.sub_add_comm h, List.replicate_add]
  rfl

theorem length_column {cell : Text × Nat} (h : cell.1.length ≤ cell.2) :
    (padRight (cell.2 + 2) cell.1).length = cell.2 + 2 :=
  length_padRight (Nat.le_add_right_of_le h)

theorem HaveRoom.length_spread (h : HaveRoom cells) :
    (spread cells).length = offset (cells.map (·.2)) (cells.map (·.2)).length := by
  induction cells with
  | nil => rfl
  | cons cell rest ih =>
    obtain ⟨⟨hroom, -⟩, hrest⟩ := List.forall_mem_cons.mp h
    rw [spread_cons, List.length_append, length_column hroom, ih hrest]
    rfl

theorem HaveRoom.line_eq (h : HaveRoom cells) : line cells = trimEnd (spread cells) := by
  by_cases hne : cells = []
  · subst hne
    rfl
  · have hfilled : (cells.map fun cell => padRight cell.2 cell.1) ≠ [] := by simpa using hne
    have hspread : spread cells = (cells.map fun cell => padRight cell.2 cell.1).flatMap
        fun part => part ++ [' ', ' '] := by
      rw [spread, List.flatMap_map]
      exact List.flatMap_congr fun cell hcell => padRight_add_two (h cell hcell).1
    rw [hspread, ← Csv.Layout.join_append [' ', ' '] hfilled, Text.trimEnd_append_blanks _ (by decide)]
    rfl

theorem HaveRoom.fills (h : HaveRoom cells) : Fills (line cells) (spread cells) := by
  rw [h.line_eq]
  induction cells with
  | nil => exact ⟨0, rfl⟩
  | cons cell rest ih =>
    obtain ⟨⟨-, htrimmed⟩, hrest⟩ := List.forall_mem_cons.mp h
    rw [spread_cons]
    refine Text.fills_trimEnd_append ?_ (ih hrest)
    rw [(Text.fills_padRight _ _).trimEnd_eq, htrimmed]
    exact Text.fills_padRight _ _

theorem HaveRoom.drop_spread (h : HaveRoom cells) (j : Nat) :
    (spread cells).drop (offset (cells.map (·.2)) j) = spread (cells.drop j) := by
  induction cells generalizing j with
  | nil => simp [spread]
  | cons cell rest ih =>
    obtain ⟨⟨hroom, -⟩, hrest⟩ := List.forall_mem_cons.mp h
    cases j with
    | zero => rfl
    | succ j =>
      have hoffset : offset ((cell :: rest).map (·.2)) (j + 1) =
          (padRight (cell.2 + 2) cell.1).length + offset (rest.map (·.2)) j := by
        rw [length_column hroom]
        rfl
      rw [hoffset, spread_cons, List.drop_length_add_append, ih hrest j, List.drop_succ_cons]

/-- Each cell stands at the place of its column, and blanks fill it up and keep it apart from the next
one. -/
structure Aligned (widths : List Nat) (line : Text) (cells : List Text) : Prop where
  length : cells.length = widths.length
  cell : ∀ j cell width, cells[j]? = some cell → widths[j]? = some width → cell.length ≤ width ∧
    ((padRight (offset widths widths.length) line).drop (offset widths j)).take (width + 2) =
      cell ++ List.replicate (width - cell.length + 2) ' '

theorem HaveRoom.aligned (h : HaveRoom cells) :
    Aligned (cells.map (·.2)) (line cells) (cells.map (·.1)) := by
  refine ⟨by rw [List.length_map, List.length_map], fun j text width htext hwidth => ?_⟩
  obtain ⟨cell, hcell, rfl⟩ : ∃ cell, cells[j]? = some cell ∧ cell.1 = text := by
    simpa [List.getElem?_map] using htext
  obtain rfl : cell.2 = width := by simpa [List.getElem?_map, hcell] using hwidth
  have hroom := (h cell (List.mem_of_getElem? hcell)).1
  have hrest : cells.drop j = cell :: cells.drop (j + 1) := by
    obtain ⟨hj, rfl⟩ := List.getElem?_eq_some_iff.mp hcell
    exact List.drop_eq_getElem_cons hj
  refine ⟨hroom, ?_⟩
  rw [← h.length_spread, h.fills.padRight_eq, h.drop_spread, hrest, spread_cons,
    List.take_left' (length_column hroom), padRight, Nat.sub_add_comm hroom]

/-! ### Reading a line -/

def cut : List Nat → Text → List Text
  | [], _ => []
  | width :: widths, line => trimEnd (line.take width) :: cut widths (line.drop (width + 2))

theorem HaveRoom.cut_eq (h : HaveRoom cells) {line : Text} (hline : Fills line (spread cells)) :
    cut (cells.map (·.2)) line = cells.map (·.1) := by
  -- The line may lack blanks at its end, and so may what is left of it behind a column.
  induction cells generalizing line with
  | nil => rfl
  | cons cell rest ih =>
    obtain ⟨⟨hroom, htrimmed⟩, hrest⟩ := List.forall_mem_cons.mp h
    rw [spread_cons] at hline
    have htake := hline.take cell.2
    rw [padRight_add_two hroom, List.append_assoc, List.take_left' (length_padRight hroom)] at htake
    have hdrop := hline.drop (cell.2 + 2)
    rw [List.drop_left' (length_column hroom)] at hdrop
    rw [List.map_cons, cut, ← htake.trimEnd_eq, (Text.fills_padRight _ _).trimEnd_eq, htrimmed,
      ih hrest hdrop, List.map_cons]

theorem HaveRoom.cut_line (h : HaveRoom cells) :
    cut (cells.map (·.2)) (line cells) = cells.map (·.1) := h.cut_eq h.fills

theorem HaveRoom.not_mem_line (h : HaveRoom cells) {c : Char} (hspace : c ≠ ' ')
    (hcells : ∀ cell ∈ cells, c ∉ cell.1) : c ∉ line cells := by
  intro hc
  obtain ⟨n, hn⟩ := h.fills
  have hmem : c ∈ spread cells := by
    rw [hn]
    exact List.mem_append_left _ hc
  obtain ⟨cell, hcell, hpart⟩ := List.mem_flatMap.mp hmem
  rcases (Text.fills_padRight _ cell.1).mem hpart with hc | hc
  · exact hcells cell hcell hc
  · exact hspace hc

theorem HaveRoom.words_line (h : HaveRoom cells) (hwords : ∀ cell ∈ cells, Text.IsWord cell.1) :
    (line cells).words = cells.map (·.1) := by
  rw [← h.fills.words_eq]
  induction cells with
  | nil => rfl
  | cons cell rest ih =>
    obtain ⟨⟨hroom, -⟩, hrest⟩ := List.forall_mem_cons.mp h
    obtain ⟨hword, hothers⟩ := List.forall_mem_cons.mp hwords
    have hblank : isBlank ' ' = true := rfl
    rw [spread_cons, padRight, Nat.sub_add_comm hroom, List.append_assoc,
      Text.words_word_append hword (by simp [List.replicate_succ, hblank]),
      Text.words_blanks_append (Text.isBlankText_replicate _), ih hrest hothers, List.map_cons]

/-! ### Tables -/

variable {t : TypeTable}

def widths (t : TypeTable) : List Nat := t.columns.map t.width

def across (t : TypeTable) (text : Text → Text) : List (Text × Nat) :=
  t.columns.map fun column => (text column, t.width column)

theorem across_widths (t : TypeTable) (text : Text → Text) : (t.across text).map (·.2) = t.widths := by
  rw [across, List.map_map]
  rfl

theorem across_texts (t : TypeTable) (text : Text → Text) :
    (t.across text).map (·.1) = t.columns.map text := by
  rw [across, List.map_map]
  rfl

theorem le_foldl_max (size : TypeRow → Nat) (rows : List TypeRow) (start : Nat) :
    start ≤ rows.foldl (fun w row => max w (size row)) start ∧
      ∀ row ∈ rows, size row ≤ rows.foldl (fun w row => max w (size row)) start := by
  induction rows generalizing start with
  | nil => exact ⟨Nat.le_refl _, List.forall_mem_nil _⟩
  | cons row rest ih =>
    obtain ⟨hstart, hrows⟩ := ih (max start (size row))
    exact ⟨Nat.le_trans (Nat.le_max_left _ _) hstart,
      List.forall_mem_cons.mpr ⟨Nat.le_trans (Nat.le_max_right _ _) hstart, hrows⟩⟩

theorem length_le_width (t : TypeTable) (column : Text) : column.length ≤ t.width column :=
  (le_foldl_max (fun row => (cell row column).length) t.rows column.length).1

theorem length_cell_le_width {row : TypeRow} (h : row ∈ t.rows) (column : Text) :
    (cell row column).length ≤ t.width column :=
  (le_foldl_max (fun row => (cell row column).length) t.rows column.length).2 row h

def dashes (t : TypeTable) (column : Text) : Text := List.replicate (t.width column) '-'

def lines (t : TypeTable) : List Text :=
  line (t.across id) :: line (t.across t.dashes) :: t.rows.map fun row => line (t.across (cell row))

theorem format_eq (t : TypeTable) : t.format = Text.join ['\n'] t.lines := by
  have hzip : ∀ text : Text → Text, (t.columns.map text).zip (t.columns.map t.width) = t.across text :=
    fun text => List.zip_map' ..
  have hcolumns := hzip id
  rw [List.map_id] at hcolumns
  simp only [format, lines, List.map_map, Function.comp_def, hcolumns, hzip]
  rfl

/-- Tables that text can show: filled row by row, with columns that have names, and with texts that have
no line feeds in them and no blanks at their ends. -/
structure IsLegible (t : TypeTable) : Prop where
  filled : ∃ values, t = filled t.columns values
  some_column : t.columns ≠ []
  named : ∀ column ∈ t.columns, column ≠ []
  columns : ∀ column ∈ t.columns, IsShowable column
  cells : ∀ row ∈ t.rows, ∀ entry ∈ row, IsShowable entry.2

namespace IsLegible

theorem rowOf_cells (h : t.IsLegible) {row : TypeRow} (hrow : row ∈ t.rows) :
    rowOf t.columns (TypeTable.cells t.columns row) = row := by
  obtain ⟨values, hvalues⟩ := h.filled
  rw [hvalues] at hrow
  exact TypeTable.rowOf_cells hrow

theorem isShowable_cell (h : t.IsLegible) {row : TypeRow} (hrow : row ∈ t.rows) {column : Text}
    (hcolumn : column ∈ t.columns) : IsShowable (cell row column) := by
  obtain ⟨values, hvalues⟩ := h.filled
  have hmem : cell row column ∈ TypeTable.cells t.columns row := List.mem_map_of_mem hcolumn
  obtain ⟨entry, hentry, htext⟩ := mem_of_mem_cells (hvalues ▸ hrow) hmem
  rw [← htext]
  exact h.cells row hrow entry hentry

theorem isWord_dashes (h : t.IsLegible) {column : Text} (hcolumn : column ∈ t.columns) :
    Text.IsWord (t.dashes column) := by
  have hpos : 0 < t.width column :=
    Nat.lt_of_lt_of_le (List.length_pos_iff.mpr (h.named column hcolumn)) (t.length_le_width column)
  refine ⟨by simpa [dashes] using Nat.ne_of_gt hpos, fun c hc => ?_⟩
  rw [List.eq_of_mem_replicate hc]
  rfl

theorem haveRoom_columns (h : t.IsLegible) : HaveRoom (t.across id) :=
  List.forall_mem_map.mpr fun column hcolumn =>
    ⟨t.length_le_width column, (h.columns column hcolumn).trimmed⟩

theorem haveRoom_dashes (h : t.IsLegible) : HaveRoom (t.across t.dashes) := by
  refine List.forall_mem_map.mpr fun column hcolumn => ⟨by simp [dashes], ?_⟩
  obtain ⟨hne, hsolid⟩ := h.isWord_dashes hcolumn
  have hend : Text.EndsSolid (t.dashes column) :=
    ⟨_, List.getLast?_eq_some_getLast hne, hsolid _ (List.getLast_mem hne)⟩
  simpa using Text.trimEnd_append hend Text.isBlankText_nil

theorem haveRoom_cells (h : t.IsLegible) {row : TypeRow} (hrow : row ∈ t.rows) :
    HaveRoom (t.across (cell row)) :=
  List.forall_mem_map.mpr fun column hcolumn =>
    ⟨t.length_cell_le_width hrow column, (h.isShowable_cell hrow hcolumn).trimmed⟩

theorem splitOn_format (h : t.IsLegible) : Text.splitOn '\n' t.format = t.lines := by
  rw [t.format_eq]
  refine Text.splitOn_join (List.forall_mem_cons.mpr ⟨?_, List.forall_mem_cons.mpr ⟨?_, ?_⟩⟩)
    (List.cons_ne_nil _ _)
  · exact h.haveRoom_columns.not_mem_line (by decide)
      (List.forall_mem_map.mpr fun column hcolumn => (h.columns column hcolumn).unbroken)
  · refine h.haveRoom_dashes.not_mem_line (by decide) (List.forall_mem_map.mpr fun column hcolumn => ?_)
    intro hfeed
    exact absurd (List.eq_of_mem_replicate hfeed) (by decide)
  · refine List.forall_mem_map.mpr fun row hrow => ?_
    exact (h.haveRoom_cells hrow).not_mem_line (by decide)
      (List.forall_mem_map.mpr fun column hcolumn => (h.isShowable_cell hrow hcolumn).unbroken)

theorem words_dashes (h : t.IsLegible) :
    (line (t.across t.dashes)).words = t.columns.map t.dashes := by
  rw [h.haveRoom_dashes.words_line (List.forall_mem_map.mpr fun column => h.isWord_dashes),
    across_texts]

theorem lengths_dashes (h : t.IsLegible) :
    (line (t.across t.dashes)).words.map List.length = t.widths := by
  rw [h.words_dashes, List.map_map]
  exact List.map_congr_left fun column _ => List.length_replicate

theorem aligned (h : t.IsLegible) : Aligned t.widths (line (t.across id)) t.columns ∧
    ∀ row ∈ t.rows, Aligned t.widths (line (t.across (cell row))) (TypeTable.cells t.columns row) := by
  refine ⟨?_, fun row hrow => ?_⟩
  · simpa only [across_widths, across_texts, List.map_id] using h.haveRoom_columns.aligned
  · have haligned := (h.haveRoom_cells hrow).aligned
    rwa [across_widths, across_texts] at haligned

end IsLegible

/-- The table that a text shows: the runs of dashes on its second line tell where the columns are. -/
def ofText (text : Text) : TypeTable :=
  match Text.splitOn '\n' text with
  | header :: dashes :: body =>
    let widths := dashes.words.map List.length
    let columns := cut widths header
    ⟨columns, body.map fun line => rowOf columns (cut widths line)⟩
  | _ => ⟨[], []⟩

theorem IsLegible.ofText_format (h : t.IsLegible) : ofText t.format = t := by
  have hcolumns : cut t.widths (line (t.across id)) = t.columns := by
    simpa only [across_widths, across_texts, List.map_id] using h.haveRoom_columns.cut_line
  have hrows : ∀ row ∈ t.rows, rowOf t.columns (cut t.widths (line (t.across (cell row)))) = row := by
    intro row hrow
    have hcut := (h.haveRoom_cells hrow).cut_line
    rw [across_widths, across_texts] at hcut
    rw [hcut]
    exact h.rowOf_cells hrow
  rw [ofText, h.splitOn_format, lines]
  dsimp only
  rw [h.lengths_dashes, hcolumns, List.map_map]
  exact congrArg (TypeTable.mk t.columns) ((List.map_congr_left hrows).trans (List.map_id t.rows))

/-- A legible table has a line for its columns, one of dashes and one for each row. The runs of dashes
tell where the texts of each column stand, in all lines alike, and so there is no other table with the
same text. -/
theorem format_faithful (h : t.IsLegible) :
    (Text.splitOn '\n' t.format).length = t.rows.length + 2 ∧
    (∃ header dashes body, Text.splitOn '\n' t.format = header :: dashes :: body ∧
      (∀ run ∈ dashes.words, ∀ c ∈ run, c = '-') ∧
      Aligned (dashes.words.map List.length) header t.columns ∧
      List.Forall₂ (Aligned (dashes.words.map List.length)) body
        (t.rows.map (TypeTable.cells t.columns))) ∧
    ofText t.format = t ∧
    ∀ other : TypeTable, other.IsLegible → other.format = t.format → other = t := by
  refine ⟨by simp [h.splitOn_format, lines], ⟨_, _, _, h.splitOn_format, ?_, ?_, ?_⟩,
    h.ofText_format, fun other hother hsame => ?_⟩
  · rw [h.words_dashes]
    exact List.forall_mem_map.mpr fun column _ c hc => List.eq_of_mem_replicate hc
  · rw [h.lengths_dashes]
    exact h.aligned.1
  · rw [h.lengths_dashes, List.forall₂_map_left_iff, List.forall₂_map_right_iff, List.forall₂_same]
    exact h.aligned.2
  · rw [← hother.ofText_format, hsame, h.ofText_format]

/-- A text that is wider than its column's name, one with blanks in and before it, and empty ones at the
end of a row and alone in it. -/
def legibleTable : TypeTable :=
  filled ["a", "bc"] [[("a", "x  y")], [], [("a", "z"), ("bc", " -- z")]]

theorem format_faithful_sample : legibleTable.IsLegible ∧
    Text.splitOn '\n' legibleTable.format =
      (["a     bc", "----  -----", "x  y", "", "z      -- z"] : List String).map String.toList ∧
    ofText legibleTable.format = legibleTable := by
  have hlegible : legibleTable.IsLegible :=
    ⟨⟨_, rfl⟩, by decide, by decide, by decide, by decide⟩
  exact ⟨hlegible, by decide, (format_faithful hlegible).2.2.1⟩

end TypeTable
end Copybook
