import TopDown.Ordered.Set
import TopDown.Symbol

/-!
# Sets of words

* `WordSet`, a finite set of words in canonical order;
* `concat`: the words of one set followed by those of another, where the empty set stands for
  "nothing known yet" and is the unit;
* `mem_concat`, `mem_concat_singleton`, `image_concat_singleton`: its members, and how a map passes
  through it;
* `WordSet.text`: `{λ, a, ab}`, or `∅`.
-/

namespace TopDown

/-- A finite set of words. -/
abbrev WordSet := OrderedSet Word

/-- How the empty set is written. -/
def emptySet : String := "∅"

namespace WordSet

/-- Every word of `a` followed by every word of `b`; an empty set is the unit. -/
def concat (a b : WordSet) : WordSet :=
  if a.isEmpty then b
  else if b.isEmpty then a
  else .ofList (a.toList.flatMap fun u => b.toList.map (u ++ ·))

theorem empty_concat (b : WordSet) : concat ∅ b = b := rfl

theorem concat_empty (a : WordSet) : concat a ∅ = a := by
  unfold concat
  split
  · rename_i h; exact (OrderedSet.isEmpty_iff.1 h).symm
  · rfl

/-- Of two sets that hold words, the product consists of the concatenations. -/
theorem mem_concat {a b : WordSet} (ha : a ≠ ∅) (hb : b ≠ ∅) {w : Word} :
    w ∈ concat a b ↔ ∃ u ∈ a, ∃ v ∈ b, w = u ++ v := by
  rw [concat, if_neg (mt OrderedSet.isEmpty_iff.1 ha), if_neg (mt OrderedSet.isEmpty_iff.1 hb)]
  simp only [OrderedSet.mem_ofList, List.mem_flatMap, List.mem_map, OrderedSet.mem_toList, eq_comm]

/-- A word in front of every word of a set. -/
theorem mem_concat_singleton {s : WordSet} {u w : Word} :
    w ∈ concat {u} s ↔ s = ∅ ∧ w = u ∨ ∃ v ∈ s, w = u ++ v := by
  by_cases hs : s = ∅
  · subst hs
    simp [concat_empty]
  · have hu : ({u} : WordSet) ≠ ∅ := fun h =>
      OrderedSet.not_mem_empty u (h ▸ OrderedSet.mem_singleton.2 rfl)
    rw [mem_concat hu hs]
    simp [hs]

/-- A map that acts on the word in front and on those behind it apart. -/
theorem image_concat_singleton {s : WordSet} {u u' : Word} {φ ψ : Word → Word} (hu : φ u = u')
    (hv : ∀ v, φ (u ++ v) = u' ++ ψ v) : (concat {u} s).image φ = concat {u'} (s.image ψ) := by
  ext w
  simp only [OrderedSet.mem_image, mem_concat_singleton, OrderedSet.image_eq_empty_iff]
  constructor
  · rintro ⟨_, ⟨hs, rfl⟩ | ⟨v, hv', rfl⟩, rfl⟩
    · exact .inl ⟨hs, hu⟩
    · exact .inr ⟨ψ v, ⟨v, hv', rfl⟩, hv v⟩
  · rintro (⟨hs, rfl⟩ | ⟨_, ⟨v, hv', rfl⟩, rfl⟩)
    · exact ⟨u, .inl ⟨hs, rfl⟩, hu⟩
    · exact ⟨u ++ v, .inr ⟨v, hv', rfl⟩, hv v⟩

/-- The words in canonical order between braces, or `∅`. -/
def text (s : WordSet) : String :=
  if s.isEmpty then emptySet
  else "\x7b" ++ ", ".intercalate (s.toList.map Word.text) ++ "\x7d"

end WordSet

end TopDown
