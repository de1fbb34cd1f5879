import TopDown.Production

/-!
# Leftmost derivations as texts

* `replay`: the forms that a list of productions leads through, each production applied at the
  leftmost nonterminal; it ends at the first production that does not fit;
* `derivationText`: the forms joined by ` => `.
-/

namespace TopDown

/-- The forms that follow `w` when the productions are applied in turn. -/
def replay (w : Form) : List Production → List Form
  | [] => []
  | p :: ps =>
    match p.expandLeftmost? w with
    | some next => next :: replay next ps
    | none => []

/-- The forms of a leftmost derivation from a nonterminal. -/
def derivationText (a : Nonterminal) (ps : List Production) : String :=
  let start : Form := [.nonterminal a]
  " => ".intercalate ((start :: replay start ps).map Form.text)

end TopDown
