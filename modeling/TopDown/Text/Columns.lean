/-!
# Columns

Rows of cells as lines of equal length, with the cells of a column aligned to the right.

* `padLeft`, `columnWidths`, `alignColumns`.
-/

namespace TopDown

/-- The text behind as many blanks as make it `n` characters long. -/
def padLeft (n : Nat) (s : String) : String :=
  String.ofList (s.toList.leftpad n ' ')

/-- The longest cell of each column; a row shorter than the first leaves its last columns out. -/
def columnWidths : List (List String) → List Nat
  | [] => []
  | row :: rows =>
    rows.foldl (fun widths r => widths.zipWith (fun n s => max n s.length) r)
      (row.map String.length)

/-- The rows as lines, with a bar between two cells. -/
def alignColumns (rows : List (List String)) : String :=
  let widths := columnWidths rows
  "\n".intercalate (rows.map fun row => " | ".intercalate (widths.zipWith padLeft row))

end TopDown
