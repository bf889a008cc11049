import TrafficMonitor.Number.Total
import TrafficMonitor.Text.Blank

/-! Text tables. Columns are as wide as their widest cell, with two spaces between, and cells
stand at the left of their columns. Widths are counted in terminal cells, of which a character
of the East Asian scripts takes two. No line ends in white space. -/
namespace TrafficMonitor.Report

/-- The terminal cells of a character. -/
def cellWidth (c : Char) : Nat := if 0x2e7f < c.toNat then 2 else 1

/-- The terminal cells of a text. -/
def width (text : String) : Nat := Number.total (text.toList.map cellWidth)

/-- Widths that also have room for the cells of a row. -/
def widen : List Nat → List String → List Nat
  | w :: ws, cell :: cells => max w (width cell) :: widen ws cells
  | ws, _ => ws

/-- The widths of the columns of a table. -/
def columnWidths (titles : List String) (rows : List (List String)) : List Nat :=
  rows.foldl widen (titles.map width)

/-- A cell with spaces after it up to the width of its column. -/
def fill (cell : String) (w : Nat) : List Char :=
  cell.toList ++ List.replicate (w - width cell) ' '

/-- A row with its cells filled up, without white space at the end. -/
def rowLine (widths : List Nat) (cells : List String) : String :=
  String.ofList (Text.trimEnd ([' ', ' '].intercalate (cells.zipWith fill widths)))

/-- The line of dashes below the titles. -/
def ruler (widths : List Nat) : String :=
  String.ofList (List.replicate (Number.total widths + 2 * (widths.length - 1)) '-')

/-- The lines of a table. -/
def tableLines (titles : List String) (rows : List (List String)) : List String :=
  let widths := columnWidths titles rows
  rowLine widths titles :: ruler widths :: rows.map (rowLine widths)

/-- The lines of a table, unless a row has more cells than there are titles. -/
def table? (titles : List String) (rows : List (List String)) : Option (List String) :=
  if rows.all (·.length ≤ titles.length) then some (tableLines titles rows) else none

end TrafficMonitor.Report
