import ClusterQuery.Proofs.Text.Trim
import ClusterQuery.Report.Basic
import Mathlib.Algebra.GroupWithZero.Nat
import Mathlib.Data.List.Fold

/-! The columns of a table line up. A column is as wide as its longest text between two limits, what is shown of a text
    never exceeds the width of its column, and every padding holds two blanks at least; so the texts of a row begin
    where their columns begin, whatever the other rows hold. Only blanks are dropped at the end of a line. -/

namespace ClusterQuery

/-! ### Blanks at the end of a line -/

/-- A part of a line that holds more than blanks stays where it is. It is kept whole, or ends the line and loses no
    more than blanks. -/
theorem exists_trimEnd_append {part : List Char} (hpart : ¬Blanks part) (before after : List Char) :
    ∃ kept cut rest, trimEnd (before ++ (part ++ after)) = before ++ (kept ++ rest) ∧ part = kept ++ cut ∧ Blanks cut ∧
      (cut = [] ∨ rest = []) := by
  by_cases hafter : Blanks after
  · obtain ⟨cut, hcut, hsplit⟩ := exists_trimEnd part
    refine ⟨trimEnd part, cut, [], ?_, hsplit, hcut, Or.inr rfl⟩
    rw [← List.append_assoc, trimEnd_append_of_blanks hafter, trimEnd_append fun h => (hpart h).elim, List.append_nil]
  · refine ⟨part, [], trimEnd after, ?_, (List.append_nil _).symm, blanks_nil, Or.inl rfl⟩
    rw [← List.append_assoc, trimEnd_append fun h => (hafter h).elim, List.append_assoc]

namespace Table

/-! ### Padded cells -/

theorem length_shown_le (cell : List Char) : (shown cell).length ≤ min cell.length greatestWidth := by
  unfold shown
  split
  · next h => exact Nat.le_min.mpr ⟨Nat.le_refl _, h⟩
  · next h =>
    have hlong : greatestWidth < cell.length := Nat.lt_of_not_le h
    rw [List.length_append, List.length_take, Nat.min_eq_right (Nat.le_of_lt hlong)]
    exact Nat.le_trans (Nat.add_le_add_right (Nat.min_le_left _ _) _) (by decide)

/-- A cell that fits its column fills the column and the blanks after it, of which there are two at least. -/
theorem padded_of_fits {width : Nat} {cell : List Char} (h : (shown cell).length ≤ width) :
    (padded width cell).length = width + 2 ∧ [' ', ' '] <:+ padded width cell := by
  have hblanks : width + padding - (shown cell).length = (width - (shown cell).length) + 2 := by
    unfold padding
    omega
  rw [padded, hblanks, ← List.replicate_append_replicate]
  refine ⟨?_, (List.suffix_append _ _).trans (List.suffix_append _ _)⟩
  rw [List.length_append, List.length_append, List.length_replicate, List.length_replicate]
  omega

/-- Every cell has a column, and what is shown of it is no longer than its column is wide. -/
def Fits (ws : List Nat) (cells : List (List Char)) : Prop :=
  ∀ (i : Nat) (cell : List Char), cells[i]? = some cell → ∃ width, ws[i]? = some width ∧ (shown cell).length ≤ width

/-- In a row of cells that fit, every cell stands where its column begins, and blanks in front of all but the first. -/
theorem exists_flatten_eq {ws : List Nat} {cells : List (List Char)} (hfits : Fits ws cells) {i : Nat}
    {cell : List Char} (hcell : cells[i]? = some cell) :
    ∃ before after, (List.zipWith padded ws cells).flatten = before ++ (shown cell ++ after) ∧
      before.length = ((ws.take i).map (· + 2)).sum ∧ (0 < i → [' ', ' '] <:+ before) := by
  -- Behind the first cell the columns begin where they would without it, but for its width and its blanks.
  induction cells generalizing ws i with
  | nil => cases hcell
  | cons first cells ih =>
    obtain ⟨width, hwidth, hfirst⟩ := hfits 0 first rfl
    obtain ⟨rest, rfl⟩ := List.head?_eq_some_iff.mp (List.head?_eq_getElem?.trans hwidth)
    have hrest : Fits rest cells := fun j => hfits (j + 1)
    rw [List.zipWith_cons_cons, List.flatten_cons]
    cases i with
    | zero =>
      obtain rfl := Option.some.inj hcell
      refine ⟨[], List.replicate (width + padding - (shown first).length) ' ' ++ (List.zipWith padded rest cells).flatten,
        ?_, rfl, fun h => (Nat.lt_irrefl 0 h).elim⟩
      rw [padded, List.append_assoc, List.nil_append]
    | succ i =>
      obtain ⟨before, after, hflat, hlength, hblanks⟩ := ih hrest hcell
      obtain ⟨hpadded, hend⟩ := padded_of_fits hfirst
      refine ⟨padded width first ++ before, after, by rw [hflat, List.append_assoc], ?_, fun _ => ?_⟩
      · rw [List.length_append, hpadded, hlength, List.take_succ_cons, List.map_cons, List.sum_cons]
      · cases i with
        | zero =>
          have hnil : before = [] := List.length_eq_zero_iff.mp hlength
          rw [hnil, List.append_nil]
          exact hend
        | succ i => exact (hblanks (Nat.succ_pos i)).trans (List.suffix_append _ _)

end Table

/-! ### Columns -/

namespace Report

/-- The texts of a table, row by row: the titles, and the cells below them. -/
def texts (r : Report) : List (List (List Char)) :=
  r.titles.map String.toList :: r.rows.map fun row => row.map cellText

/-- The width of a column: the length of its longest text, between 10 and 50. -/
def columnWidth (r : Report) (i : Nat) : Nat :=
  (r.texts.filterMap fun row => row[i]?).foldr (fun text width => max (min text.length 50) width) 10

/-- Where a column begins: behind the columns in front of it and two blanks after each of them. -/
def columnStart (r : Report) (i : Nat) : Nat := ((List.range i).map fun j => r.columnWidth j + 2).sum

def line (r : Report) (row : List (List Char)) : List Char := Table.line (Table.widths r.titles.length r.texts) row

variable {r : Report}

theorem widthOf_eq (texts : List (List Char)) :
    Table.widthOf texts = texts.foldr (fun text width => max (min text.length 50) width) 10 := by
  have hmap : (texts.map fun text => min text.length 50).foldl max 10 = (texts.map fun text => min text.length 50).foldr max 10 :=
    List.foldl_eq_foldr
  rw [List.foldl_map, List.foldr_map] at hmap
  exact hmap

theorem widths_eq (r : Report) :
    Table.widths r.titles.length r.texts = (List.range r.titles.length).map r.columnWidth :=
  List.map_congr_left fun _ _ => widthOf_eq _

theorem min_length_le_columnWidth {row : List (List Char)} (hrow : row ∈ r.texts) {i : Nat} {text : List Char}
    (htext : row[i]? = some text) : min text.length 50 ≤ r.columnWidth i := by
  have hmem : text ∈ r.texts.filterMap fun row => row[i]? := List.mem_filterMap.mpr ⟨row, hrow, htext⟩
  unfold columnWidth
  generalize (r.texts.filterMap fun row => row[i]?) = texts at hmem ⊢
  induction texts with
  | nil => cases hmem
  | cons first texts ih =>
    rw [List.foldr_cons]
    rcases List.mem_cons.mp hmem with rfl | hmem
    · exact Nat.le_max_left _ _
    · exact Nat.le_trans (ih hmem) (Nat.le_max_right _ _)

/-- In the report of an answer every row has as many cells as there are titles. -/
theorem length_eq_of_mem_ofResult {result : QueryResult} {row : List (Option Value)} (h : row ∈ (ofResult result).rows) :
    row.length = (ofResult result).titles.length :=
  (result.complete row h).trans (List.length_map _).symm

/-- In a report without rows longer than its titles, every text of a row has a column that is wide enough for it. -/
theorem fits_column (hfit : ∀ row ∈ r.rows, row.length ≤ r.titles.length) {row : List (List Char)} (hrow : row ∈ r.texts)
    {i : Nat} {cell : List Char} (hcell : row[i]? = some cell) :
    i < r.titles.length ∧ (Table.shown cell).length ≤ r.columnWidth i := by
  have hlength : row.length ≤ r.titles.length := by
    rcases List.mem_cons.mp hrow with rfl | hrow
    · exact Nat.le_of_eq (List.length_map _)
    · obtain ⟨values, hvalues, rfl⟩ := List.mem_map.mp hrow
      rw [List.length_map]
      exact hfit values hvalues
  exact ⟨Nat.lt_of_lt_of_le (List.getElem?_eq_some_iff.mp hcell).1 hlength,
    Nat.le_trans (Table.length_shown_le cell) (min_length_le_columnWidth hrow hcell)⟩

theorem fits_widths (hfit : ∀ row ∈ r.rows, row.length ≤ r.titles.length) {row : List (List Char)} (hrow : row ∈ r.texts) :
    Table.Fits (Table.widths r.titles.length r.texts) row := by
  intro i cell hcell
  obtain ⟨hi, hshown⟩ := fits_column hfit hrow hcell
  refine ⟨r.columnWidth i, ?_, hshown⟩
  rw [widths_eq, List.getElem?_map, List.getElem?_range hi, Option.map_some]

theorem table_eq (hrows : r.rows ≠ []) (headers : Bool) :
    r.table headers = (if headers then r.texts else r.texts.tail).flatMap r.line := by
  rw [table, if_neg (by simpa using hrows), Table.render, List.length_map]
  rfl

/-- The columns of a table line up. A table is the lines of its rows, with that of the titles in front or without it.
    In its line every text with more than blanks in it, cut at 50 characters with an ellipsis at the end, stands where
    its column begins, behind two blanks at least unless the column is the first; of its characters only blanks at the
    end of the line are dropped. No text is longer than its column is wide. -/
theorem table_columns_line_up (hrows : r.rows ≠ []) (hfit : ∀ row ∈ r.rows, row.length ≤ r.titles.length) :
    (∀ headers, r.table headers = (if headers then r.texts else r.texts.tail).flatMap r.line) ∧
    ∀ row ∈ r.texts, ∃ line, r.line row = line ++ ['\n'] ∧
      ∀ i cell shown, row[i]? = some cell →
        shown = (if cell.length ≤ 50 then cell else cell.take 47 ++ ['.', '.', '.']) →
        shown.length ≤ r.columnWidth i ∧
        (¬Blanks shown → ∃ before kept cut after, line = before ++ (kept ++ after) ∧
          before.length = r.columnStart i ∧ (0 < i → [' ', ' '] <:+ before) ∧
          shown = kept ++ cut ∧ Blanks cut ∧ (cut = [] ∨ after = [])) := by
  refine ⟨table_eq hrows, fun row hrow => ⟨_, rfl, ?_⟩⟩
  rintro i cell _ hcell rfl
  obtain ⟨hi, hshown⟩ := fits_column hfit hrow hcell
  refine ⟨hshown, fun hblank => ?_⟩
  obtain ⟨before, after, hflat, hlength, hspaces⟩ := Table.exists_flatten_eq (fits_widths hfit hrow) hcell
  obtain ⟨kept, cut, rest, htrim, hkept, hcut, hend⟩ := exists_trimEnd_append hblank before after
  refine ⟨before, kept, cut, rest, ?_, ?_, hspaces, hkept, hcut, hend⟩
  · rw [hflat]
    exact htrim
  · rw [hlength, widths_eq, ← List.map_take, List.take_range, Nat.min_eq_left (Nat.le_of_lt hi), List.map_map]
    rfl

/-- A cell loses the blank that it ends with at the end of its line, and an absent one leaves its column empty. -/
theorem table_columns_line_up_of_phases :
    let r : Report := ⟨["name", "phase"], [[some (.text "web"), some (.text "up ")], [none, some (.text "down")]]⟩
    r.rows ≠ [] ∧ (∀ row ∈ r.rows, row.length ≤ r.titles.length) ∧
      r.table true = "name        phase\nweb         up\n            down\n".toList ∧
      ∃ line before kept cut after, r.line ["web".toList, "up ".toList] = line ++ ['\n'] ∧
        line = before ++ (kept ++ after) ∧ before.length = 12 ∧ "up ".toList = kept ++ cut ∧ Blanks cut := by
  intro r
  have hrows : r.rows ≠ [] := List.cons_ne_nil _ _
  have hfit : ∀ row ∈ r.rows, row.length ≤ r.titles.length := by simp [r]
  have hlines := (table_columns_line_up hrows hfit).2
  obtain ⟨line, hline, hcells⟩ := hlines ["web".toList, "up ".toList] (by decide)
  obtain ⟨before, kept, cut, after, heq, hlength, -, hkept, hcut, -⟩ := (hcells 1 _ _ rfl rfl).2 (by decide)
  exact ⟨hrows, hfit, by decide, line, before, kept, cut, after, hline, heq, hlength, hkept, hcut⟩

end Report

end ClusterQuery
