import ClusterQuery.Text.Blank

/-!
Tables in columns of fixed width. A column is as wide as its widest cell between two limits, longer cells are
cut, and blanks at the ends of lines are dropped.
-/

namespace ClusterQuery

namespace Table

/-- How many blanks stand between columns. -/
def padding : Nat := 2

def leastWidth : Nat := 10

def greatestWidth : Nat := 50

/-- What stands for the part of a cell that is cut off. -/
def ellipsis : List Char := ['.', '.', '.']

/-- The part of a cell that is shown. -/
def shown (cell : List Char) : List Char :=
  if cell.length ≤ greatestWidth then cell else cell.take (greatestWidth - ellipsis.length) ++ ellipsis

/-- The width that cells of one column need. -/
def widthOf (cells : List (List Char)) : Nat :=
  cells.foldl (fun w cell => max w (min cell.length greatestWidth)) leastWidth

/-- The widths of the first `columns` columns of some rows. -/
def widths (columns : Nat) (rows : List (List (List Char))) : List Nat :=
  (List.range columns).map fun i => widthOf (rows.filterMap fun row => row[i]?)

/-- A cell and the blanks after it. -/
def padded (width : Nat) (cell : List Char) : List Char :=
  shown cell ++ List.replicate (width + padding - (shown cell).length) ' '

/-- The line of a row. -/
def line (widths : List Nat) (row : List (List Char)) : List Char :=
  trimEnd (List.zipWith padded widths row).flatten ++ ['\n']

/-- The lines of a table, with its titles or without. -/
def render (headers : Bool) (titles : List (List Char)) (rows : List (List (List Char))) : List Char :=
  let ws := widths titles.length (titles :: rows)
  (if headers then titles :: rows else rows).flatMap (line ws)

end Table

end ClusterQuery
