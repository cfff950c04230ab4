import LinearModel.Text.Lines
import LinearModel.Text.Width

/-!
# Tables

Rows of cells between vertical bars, under a row of titles between two rules and above a third rule.
A cell may hold several lines, and a row is as high as its highest cell. Columns are as wide as
their widest line on a terminal.
-/

namespace LinearModel.Text

namespace Table

abbrev Cell := List String

def cellOf (s : String) : Cell :=
  lines s

def cellWidth (c : Cell) : Nat :=
  (c.map width).foldl max 0

/-- Even a row without text takes a line. -/
def rowHeight (row : List Cell) : Nat :=
  (row.map List.length).foldl max 1

def columnWidths : List (List Cell) → List Nat
  | [] => []
  | row :: rows => mergeWidths (row.map cellWidth) (columnWidths rows)
where
  mergeWidths : List Nat → List Nat → List Nat
    | [], ws => ws
    | vs, [] => vs
    | v :: vs, w :: ws => max v w :: mergeWidths vs ws

/-- Blanks up to the width follow the text. -/
def padded (w : Nat) (s : String) : String :=
  s ++ String.ofList (List.replicate (w - width s) ' ')

def rule (widths : List Nat) : String :=
  "+" ++ String.join (widths.map fun w => String.ofList (List.replicate (w + 2) '-') ++ "+") ++ "\n"

def rowLine (widths : List Nat) (row : List Cell) (i : Nat) : String :=
  "|" ++ String.join ((widths.zip row).map fun (w, c) => " " ++ padded w (c.getD i "") ++ " |") ++
    "\n"

def rowText (widths : List Nat) (row : List Cell) : String :=
  String.join ((List.range (rowHeight row)).map (rowLine widths row))

def text (titles : List String) (rows : List (List String)) : String :=
  let titles := titles.map cellOf
  let rows := rows.map (·.map cellOf)
  let widths := columnWidths (titles :: rows)
  rule widths ++ rowText widths titles ++ rule widths ++
    String.join (rows.map (rowText widths)) ++ rule widths

end Table

end LinearModel.Text
