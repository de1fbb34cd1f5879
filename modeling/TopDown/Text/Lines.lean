/-!
# Lines of a text

A text is read line by line; each line has an end of its own.

* `lines`; `lines_append_lineFeed`, `lines_append_carriageReturn`, `lines_of_not_mem`: the lines are
  what stands in front of the line ends, and what stands behind the last one unless that is nothing;
  `lines_intercalate`: lines that are joined.
-/

namespace TopDown

/-- The lines of a text. A line ends at a line feed, which may have a carriage return in front of
it, or where the text ends. -/
def lines : List Char → List (List Char)
  | [] => []
  | '\n' :: s => [] :: lines s
  | '\r' :: '\n' :: s => [] :: lines s
  | c :: s =>
    match lines s with
    | [] => [[c]]
    | l :: ls => (c :: l) :: ls

/-- A character that does not begin a line end belongs to the first line. -/
theorem lines_cons {c : Char} {s : List Char} (hc : c ≠ '\n')
    (hs : c = '\r' → s.head? ≠ some '\n') :
    lines (c :: s) = (match lines s with
      | [] => [[c]]
      | l :: ls => (c :: l) :: ls) := by
  rw [lines]
  · exact hc
  · rintro s rfl rfl
    exact hs rfl rfl

/-- What stands in front of a text without a line end belongs to its first line. -/
theorem lines_append {l s first : List Char} {rest : List (List Char)} (hl : '\n' ∉ l)
    (hend : l.getLast? = some '\r' → s.head? ≠ some '\n') (hs : lines s = first :: rest) :
    lines (l ++ s) = (l ++ first) :: rest := by
  induction l with
  | nil => exact hs
  | cons c l ih =>
    rw [List.mem_cons, not_or] at hl
    have hreturn : c = '\r' → (l ++ s).head? ≠ some '\n' := by
      intro hc
      cases l with
      | nil => exact hend (congrArg some hc)
      | cons d l => exact fun h => hl.2 (Option.some.inj h ▸ List.mem_cons_self)
    have htail : l.getLast? = some '\r' → s.head? ≠ some '\n' := by
      intro h
      refine hend ?_
      rw [List.getLast?_cons, h]
      rfl
    rw [List.cons_append, lines_cons (Ne.symm hl.1) hreturn, ih hl.2 htail]
    rfl

theorem lines_append_lineFeed {l : List Char} (hl : '\n' ∉ l) (hend : l.getLast? ≠ some '\r')
    (s : List Char) : lines (l ++ '\n' :: s) = l :: lines s := by
  rw [lines_append hl (fun h => absurd h hend) (by rw [lines]), List.append_nil]

theorem lines_append_carriageReturn {l : List Char} (hl : '\n' ∉ l) (s : List Char) :
    lines (l ++ '\r' :: '\n' :: s) = l :: lines s := by
  have hhead : ('\r' :: '\n' :: s).head? ≠ some '\n' := fun h =>
    absurd (Option.some.inj h) (by decide)
  rw [lines_append hl (fun _ => hhead) (by rw [lines]), List.append_nil]

/-- A text without line ends is one line, if it is anything. -/
theorem lines_of_not_mem {l : List Char} (hl : '\n' ∉ l) (hne : l ≠ []) : lines l = [l] := by
  induction l with
  | nil => exact absurd rfl hne
  | cons c l ih =>
    rw [List.mem_cons, not_or] at hl
    rw [lines_cons (Ne.symm hl.1) fun _ h => hl.2 (List.mem_of_head? h)]
    by_cases hnil : l = []
    · rw [hnil]
      rfl
    · rw [ih hl.2 hnil]

/-- Lines that are joined are read back: none of them is empty, holds a line feed or ends in a
carriage return, which would count as part of the line end. -/
theorem lines_intercalate {ls : List (List Char)}
    (h : ∀ l ∈ ls, l ≠ [] ∧ '\n' ∉ l ∧ l.getLast? ≠ some '\r') :
    lines (['\n'].intercalate ls) = ls := by
  induction ls with
  | nil => rfl
  | cons l ls ih =>
    obtain ⟨⟨hne, hl, hend⟩, hls⟩ := List.forall_mem_cons.1 h
    cases ls with
    | nil =>
      rw [List.intercalate_singleton]
      exact lines_of_not_mem hl hne
    | cons l' ls =>
      rw [List.intercalate_cons_cons, List.append_assoc, List.singleton_append,
        lines_append_lineFeed hl hend, ih hls]

end TopDown
