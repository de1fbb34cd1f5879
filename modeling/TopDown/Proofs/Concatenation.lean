import TopDown.Proofs.Truncation

/-!
# The laws of concatenation

The empty set is the unit of concatenation and not its zero, so neither union nor inclusion passes
through it. What is left of the laws of languages is that the sets of words make a monoid, in which
only the empty set is made of empty sets.

* `WordSet.concat_eq_empty_iff`, `WordSet.concat_assoc`;
* `WordSet.truncate_truncate`, `WordSet.truncate_concat_truncate`: behind a word, a set may be cut
  before and after or only after;
* **`WordSet.concat_monoid`**.
-/

namespace TopDown

namespace WordSet

variable {a b c s : WordSet} {u : Word} {j k : Nat}

/-- Nothing is made of nothing only. -/
theorem concat_eq_empty_iff : concat a b = ∅ ↔ a = ∅ ∧ b = ∅ := by
  constructor
  · intro h
    by_cases ha : a = ∅
    · rw [ha, empty_concat] at h
      exact ⟨ha, h⟩
    by_cases hb : b = ∅
    · rw [hb, concat_empty] at h
      exact ⟨h, hb⟩
    · obtain ⟨u, hu⟩ := exists_mem_of_ne_empty ha
      obtain ⟨v, hv⟩ := exists_mem_of_ne_empty hb
      have huv : u ++ v ∈ concat a b := (mem_concat ha hb).2 ⟨u, hu, v, hv, rfl⟩
      rw [h] at huv
      exact absurd huv (OrderedSet.not_mem_empty (u ++ v))
  · rintro ⟨rfl, rfl⟩
    rfl

variable (a b c) in
theorem concat_assoc : concat (concat a b) c = concat a (concat b c) := by
  -- an empty set drops out on both sides alike
  by_cases ha : a = ∅
  · rw [ha, empty_concat, empty_concat]
  by_cases hb : b = ∅
  · rw [hb, concat_empty, empty_concat]
  by_cases hc : c = ∅
  · rw [hc, concat_empty, concat_empty]
  have hab : concat a b ≠ ∅ := fun h => ha (concat_eq_empty_iff.1 h).1
  have hbc : concat b c ≠ ∅ := fun h => hb (concat_eq_empty_iff.1 h).1
  ext w
  rw [mem_concat hab hc, mem_concat ha hbc]
  constructor
  · rintro ⟨_, hxy, z, hz, rfl⟩
    obtain ⟨x, hx, y, hy, rfl⟩ := (mem_concat ha hb).1 hxy
    have hyz : y ++ z ∈ concat b c := (mem_concat hb hc).2 ⟨y, hy, z, hz, rfl⟩
    exact ⟨x, hx, y ++ z, hyz, List.append_assoc x y z⟩
  · rintro ⟨x, hx, _, hyz, rfl⟩
    obtain ⟨y, hy, z, hz, rfl⟩ := (mem_concat hb hc).1 hyz
    have hxy : x ++ y ∈ concat a b := (mem_concat ha hb).2 ⟨x, hx, y, hy, rfl⟩
    exact ⟨x ++ y, hxy, z, hz, (List.append_assoc x y z).symm⟩

/-! ## Truncation -/

/-- Of two truncations the shorter one counts. -/
theorem truncate_truncate : (s.truncate k).truncate j = s.truncate (min j k) := by
  ext w
  simp only [mem_truncate]
  constructor
  · rintro ⟨_, ⟨v, hv, rfl⟩, rfl⟩
    exact ⟨v, hv, List.take_take.symm⟩
  · rintro ⟨v, hv, rfl⟩
    exact ⟨v.take k, ⟨v, hv, rfl⟩, List.take_take⟩

variable (k u s) in
/-- Behind a word, only the first `k` terminals reach as far as `k` terminals behind that word. -/
theorem truncate_concat_truncate :
    (concat {u} (s.truncate k)).truncate (u.length + k) =
      (concat {u} s).truncate (u.length + k) := by
  rw [truncate_concat_singleton, truncate_concat_singleton, truncate_truncate, Nat.min_self]

/-! ## The monoid -/

/-- **The sets of words are a monoid under concatenation, with the empty set as its unit.** No
concatenation is empty but that of empty sets; where neither part is empty, its members are the
concatenations of a word of the one and a word of the other; and behind a single word `u` the words
of a set may be cut to length `k` if what comes of it is cut to length `u.length + k`. -/
theorem concat_monoid (a b c : WordSet) :
    concat (concat a b) c = concat a (concat b c) ∧
    concat a ∅ = a ∧ concat ∅ a = a ∧
    (concat a b = ∅ → a = ∅ ∧ b = ∅) ∧
    (a ≠ ∅ → b ≠ ∅ → ∀ w, w ∈ concat a b ↔ ∃ u ∈ a, ∃ v ∈ b, w = u ++ v) ∧
    ∀ (k : Nat) (u : Word),
      (concat {u} (b.truncate k)).truncate (u.length + k) =
        (concat {u} b).truncate (u.length + k) :=
  ⟨concat_assoc a b c, concat_empty a, empty_concat a, concat_eq_empty_iff.1,
    fun ha hb _ => mem_concat ha hb, fun k u => truncate_concat_truncate b u k⟩

theorem concat_monoid_collapsing :
    let s : WordSet := .ofList [[], [Sample.a]]
    let t : WordSet := .ofList [[Sample.b], [Sample.a, Sample.b]]
    s ≠ ∅ ∧ t ≠ ∅ ∧
      concat s t = .ofList [[Sample.b], [Sample.a, Sample.b], [Sample.a, Sample.a, Sample.b]] ∧
      (∀ w, w ∈ concat s t ↔ ∃ u ∈ s, ∃ v ∈ t, w = u ++ v) ∧
      concat (concat s ∅) t = concat s (concat ∅ t) := by
  intro s t
  have hs : s ≠ ∅ := by decide
  have ht : t ≠ ∅ := by decide
  obtain ⟨-, -, -, -, hmem, -⟩ := concat_monoid s t ∅
  obtain ⟨hassoc, -⟩ := concat_monoid s ∅ t
  exact ⟨hs, ht, by decide, hmem hs ht, hassoc⟩

end WordSet

end TopDown
