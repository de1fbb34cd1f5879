/-!
# The canonical order

Symbols, words and forms are listed in one fixed order wherever a set of them is shown. The class
asks of a type what such a listing needs: a strict linear order that can be decided.

* `CanonicalOrder`, and `CanonicalOrder.ofKey`, the order of a type with an injective key;
* the order of lists is lexicographic, so a list comes before those that it begins.
-/

namespace TopDown

/-- A decidable strict linear order. -/
class CanonicalOrder (α : Type) extends LT α where
  decidableLt : ∀ a b : α, Decidable (a < b)
  irrefl : ∀ a : α, ¬ a < a
  trans : ∀ {a b c : α}, a < b → b < c → a < c
  eq_of_not_lt : ∀ {a b : α}, ¬ a < b → ¬ b < a → a = b

namespace CanonicalOrder

attribute [reducible, instance] CanonicalOrder.decidableLt

variable {α β : Type}

theorem ne_of_lt [CanonicalOrder α] {a b : α} (h : a < b) : a ≠ b :=
  fun e => irrefl b (e ▸ h)

theorem asymm [CanonicalOrder α] {a b : α} (h : a < b) : ¬ b < a :=
  fun h' => irrefl a (trans h h')

/-- The order by an injective key. -/
@[reducible] def ofKey [CanonicalOrder β] (key : α → β) (inj : ∀ {a b}, key a = key b → a = b) :
    CanonicalOrder α where
  lt a b := key a < key b
  decidableLt a b := decidableLt (key a) (key b)
  irrefl a := irrefl (key a)
  trans := trans
  eq_of_not_lt h h' := inj (eq_of_not_lt h h')

instance : CanonicalOrder Char where
  decidableLt := inferInstance
  irrefl := Char.lt_irrefl
  trans := Char.lt_trans
  eq_of_not_lt h h' := Char.le_antisymm (Char.not_lt.1 h') (Char.not_lt.1 h)

section List

variable [CanonicalOrder α]

instance : Std.Irrefl (fun a b : α => a < b) := ⟨irrefl⟩

instance : Std.Trichotomous (fun a b : α => a < b) := ⟨fun _ _ => eq_of_not_lt⟩

instance : Trans (fun a b : α => a < b) (fun a b : α => a < b) (fun a b : α => a < b) := ⟨trans⟩

/-- Lists are ordered lexicographically. -/
instance [DecidableEq α] : CanonicalOrder (List α) where
  toLT := List.instLT
  decidableLt := List.decidableLT
  irrefl := List.lt_irrefl
  trans := List.lt_trans
  eq_of_not_lt h h' := List.le_antisymm (List.not_lt.1 h') (List.not_lt.1 h)

end List

end CanonicalOrder

end TopDown
