import Mathlib.Logic.Relation
import TopDown.Proofs.Consumption

/-!
# Derivability

A form derives another if productions, applied at any nonterminals in any order, lead from the one
to the other. A form derives a word iff, as a stack, it consumes the word when every production of
a nonterminal may be selected for it.

* `Grammar.Rewrites`, `Grammar.Derives`;
* `Grammar.Derives.declared`: declared symbols derive declared symbols;
* `Grammar.selection`: all productions of a nonterminal;
* `Consumes.derives`, `Grammar.Derives.exists_consumes`; `Consumes.select`: a narrower selection.
-/

namespace TopDown

namespace Grammar

variable (g : Grammar)

/-- A production replaces its left side somewhere in a form. -/
inductive Rewrites : Form → Form → Prop
  | intro {p : Production} (x y : Form) : p ∈ g.productions →
      Rewrites (x ++ .nonterminal p.left :: y) (x ++ (p.right ++ y))

/-- A form derives another by any number of productions. -/
def Derives : Form → Form → Prop := Relation.ReflTransGen g.Rewrites

/-- Any production of a nonterminal may be selected for it. -/
def selection : Selection := fun a _ p => p ∈ g.productionsOf a

variable {g} {x y z : Form}

namespace Derives

theorem refl (x : Form) : g.Derives x x := Relation.ReflTransGen.refl

theorem trans (h : g.Derives x y) (h' : g.Derives y z) : g.Derives x z :=
  Relation.ReflTransGen.trans h h'

theorem of_mem_productionsOf {a : Nonterminal} {p : Production} (hp : p ∈ g.productionsOf a) :
    g.Derives (.nonterminal a :: x) (p.right ++ x) := by
  obtain ⟨hmem, rfl⟩ := g.mem_productionsOf.1 hp
  exact Relation.ReflTransGen.single (.intro [] x hmem)

theorem append_left (h : g.Derives x y) (z : Form) : g.Derives (z ++ x) (z ++ y) := by
  induction h with
  | refl => exact refl _
  | tail _ hstep ih =>
    obtain ⟨x', y', hp⟩ := hstep
    refine ih.trans (Relation.ReflTransGen.single ?_)
    rw [← List.append_assoc, ← List.append_assoc]
    exact .intro (z ++ x') y' hp

theorem append_right (h : g.Derives x y) (z : Form) : g.Derives (x ++ z) (y ++ z) := by
  induction h with
  | refl => exact refl _
  | tail _ hstep ih =>
    obtain ⟨x', y', hp⟩ := hstep
    refine ih.trans (Relation.ReflTransGen.single ?_)
    have hrewrites := Rewrites.intro x' (y' ++ z) hp
    simpa using hrewrites

/-- What is derived in front of a word keeps the word. -/
theorem exists_of_append_toForm {w : Word} (h : g.Derives (x ++ Word.toForm w) y) :
    ∃ x', y = x' ++ Word.toForm w ∧ g.Derives x x' := by
  induction h with
  | refl => exact ⟨x, rfl, refl x⟩
  | tail _ hstep ih =>
    obtain ⟨x', hx', hd⟩ := ih
    obtain @⟨p, l, r, hp⟩ := hstep
    -- the nonterminal that is replaced stands in front of the word
    have hword : .nonterminal p.left ∉ Word.toForm w := Word.nonterminal_not_mem_toForm _ w
    rcases List.append_eq_append_iff.1 hx' with ⟨c, rfl, hc⟩ | ⟨c, -, hc⟩
    · cases c with
      | nil =>
        rw [← List.nil_append (Word.toForm w), ← hc] at hword
        exact absurd List.mem_cons_self hword
      | cons s c =>
        obtain ⟨rfl, rfl⟩ := List.cons.inj hc
        refine ⟨l ++ (p.right ++ c), ?_, hd.trans (Relation.ReflTransGen.single (.intro l c hp))⟩
        simp
    · rw [hc] at hword
      exact absurd (List.mem_append_right c List.mem_cons_self) hword

/-- Declared symbols derive declared symbols. -/
theorem declared (h : g.Derives x y) (hx : ∀ s ∈ x, s.DeclaredIn g.nonterminals g.terminals) :
    ∀ s ∈ y, s.DeclaredIn g.nonterminals g.terminals := by
  induction h with
  | refl => exact hx
  | tail _ hstep ih =>
    obtain ⟨x', y', hp⟩ := hstep
    intro s hs
    rw [List.mem_append, List.mem_append] at hs
    rcases hs with hs | hs | hs
    · exact ih s (List.mem_append_left _ hs)
    · exact (g.declared _ hp).2 s hs
    · exact ih s (List.mem_append_right _ (List.mem_cons_of_mem _ hs))

end Derives

end Grammar

variable {g : Grammar} {x : Form} {u v w : Word} {ds : List Production}

/-- What a stack consumes by productions of the grammar is derived from it. -/
theorem Consumes.derives {sel : Selection} (hsel : ∀ a u p, sel a u p → p ∈ g.productionsOf a)
    (h : Consumes sel x u ds v) : ∃ r, u = r ++ v ∧ g.Derives x (Word.toForm r) := by
  induction h with
  | done => exact ⟨[], rfl, .refl _⟩
  | @read t _ _ _ _ _ ih =>
    obtain ⟨r, rfl, h⟩ := ih
    exact ⟨t :: r, rfl, h.append_left [.terminal t]⟩
  | expand hp _ ih =>
    obtain ⟨r, hu, h⟩ := ih
    exact ⟨r, hu, (Grammar.Derives.of_mem_productionsOf (hsel _ _ _ hp)).trans h⟩

/-- A word that is derived is consumed, whatever stands behind it. -/
theorem Grammar.Derives.exists_consumes (h : g.Derives x (Word.toForm w)) (v : Word) :
    ∃ ds, Consumes g.selection x (w ++ v) ds v := by
  induction h using Relation.ReflTransGen.head_induction_on with
  | refl => exact ⟨[], Consumes.toForm_iff.2 ⟨rfl, rfl⟩⟩
  | head hstep _ ih =>
    obtain ⟨x, y, hp⟩ := hstep
    obtain ⟨ds, h⟩ := ih
    -- the productions for the right side move behind the one for the left side
    obtain ⟨ds₁, v₁, ds₂, rfl, hx, hright⟩ := h.exists_of_append
    have hleft := Consumes.expand (g.mem_productionsOf.2 ⟨hp, rfl⟩ : g.selection _ v₁ _) hright
    exact ⟨_, hx.append hleft⟩

/-- Where all productions that are used may be selected in another way too, the stack consumes the
same in that way. -/
theorem Consumes.select {sel sel' : Selection} (h : Consumes sel x u ds v)
    (hsel : ∀ a u p ds v, sel a u p → Consumes sel p.right u ds v → sel' a u p) :
    Consumes sel' x u ds v := by
  induction h with
  | done => exact done
  | read _ ih => exact read ih
  | expand hp h ih =>
    obtain ⟨ds₁, v₁, -, -, hright, -⟩ := h.exists_of_append
    exact expand (hsel _ _ _ _ _ hp hright) ih

end TopDown
