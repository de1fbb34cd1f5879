import TopDown.Grammar.Basic
import TopDown.WordSet

/-!
# Walks through a grammar

The words that begin or follow a nonterminal are collected on a walk that opens nonterminals inside
one another. The walk hands on the set of those that it has open, and does not open one again: that
would be a cycle.

* `WordSet.unionOf`, a union over a list, and `WordSet.image_unionOf`;
* `Opened`, `Walk`, and the ways to make a walk: `Walk.give`, `map`, `union`, `opening`;
* `Walk.Yields`: from a given set the walk collects given words and hands the set on unchanged.
  Every way to make a walk keeps this.
-/

namespace TopDown

/-- The nonterminals that are open. -/
abbrev Opened := OrderedSet Nonterminal

/-- A walk collects words and hands on what is open. -/
abbrev Walk := Opened → WordSet × Opened

/-- The words that `f` gives for the members of a list, all in one set. -/
def WordSet.unionOf {α : Type} (l : List α) (f : α → WordSet) : WordSet :=
  l.foldr (fun a words => f a ∪ words) ∅

@[simp] theorem WordSet.mem_unionOf {α : Type} {l : List α} {f : α → WordSet} {u : Word} :
    u ∈ unionOf l f ↔ ∃ a ∈ l, u ∈ f a := by
  induction l with
  | nil => simp [unionOf]
  | cons a l ih =>
    rw [unionOf] at ih ⊢
    rw [List.foldr_cons, OrderedSet.mem_union, ih]
    simp

namespace WordSet

variable {α β : Type} {l l' : List α} {f f' : α → WordSet}

theorem unionOf_congr (h : ∀ a ∈ l, f a = f' a) : unionOf l f = unionOf l f' := by
  ext u
  simp only [mem_unionOf]
  exact exists_congr fun a => and_congr_right fun ha => by rw [h a ha]

/-- Neither order nor repetition matters to a union. -/
theorem unionOf_eq_of_mem_iff (h : ∀ a, a ∈ l ↔ a ∈ l') : unionOf l f = unionOf l' f := by
  ext u
  simp only [mem_unionOf, h]

theorem unionOf_map {r : β → α} {m : List β} :
    unionOf (m.map r) f = unionOf m fun b => f (r b) := by
  ext u
  simp only [mem_unionOf, List.mem_map]
  constructor
  · rintro ⟨_, ⟨b, hb, rfl⟩, hu⟩
    exact ⟨b, hb, hu⟩
  · rintro ⟨b, hb, hu⟩
    exact ⟨r b, ⟨b, hb, rfl⟩, hu⟩

theorem image_unionOf {φ : Word → Word} :
    (unionOf l f).image φ = unionOf l fun a => (f a).image φ := by
  ext u
  simp only [OrderedSet.mem_image, mem_unionOf]
  constructor
  · rintro ⟨v, ⟨a, ha, hv⟩, hvu⟩
    exact ⟨a, ha, v, hv, hvu⟩
  · rintro ⟨a, ha, v, hv, hvu⟩
    exact ⟨v, ⟨a, ha, hv⟩, hvu⟩

end WordSet

namespace Walk

variable {α : Type}

/-- Collect given words. -/
def give (words : WordSet) : Walk := fun opened => (words, opened)

/-- Pass the collected words through `f`. -/
def map (f : WordSet → WordSet) (x : Walk) : Walk := fun opened =>
  let (words, opened) := x opened
  (f words, opened)

/-- Walk on for every member of a list in turn. -/
def union (f : α → Walk) : List α → Walk
  | [] => give ∅
  | a :: l => fun opened =>
    let (words, opened) := f a opened
    (union f l).map (words ∪ ·) opened

/-- Walk on with `a` open; if it is open already, collect the words `cycle` instead. -/
def opening (a : Nonterminal) (cycle : WordSet) (x : Walk) : Walk := fun opened =>
  if a ∈ opened then (cycle, opened)
  else
    let (words, opened) := x (opened.insert a)
    (words, opened.erase a)

/-- From `opened` the walk collects `words` and hands `opened` on. -/
def Yields (x : Walk) (opened : Opened) (words : WordSet) : Prop := x opened = (words, opened)

variable {x : Walk} {opened : Opened} {words : WordSet}

theorem yields_give : (give words).Yields opened words := rfl

theorem Yields.map {f : WordSet → WordSet} (h : x.Yields opened words) :
    (x.map f).Yields opened (f words) := by
  unfold Yields Walk.map
  rw [h]

theorem yields_union {f : α → Walk} {l : List α} {words : α → WordSet}
    (h : ∀ a ∈ l, (f a).Yields opened (words a)) :
    (union f l).Yields opened (.unionOf l words) := by
  induction l with
  | nil => rfl
  | cons a l ih =>
    have ih := ih fun b hb => h b (List.mem_cons_of_mem _ hb)
    unfold Yields union
    rw [h a List.mem_cons_self]
    exact ih.map

theorem yields_opening {a : Nonterminal} {cycle : WordSet}
    (h : a ∉ opened → x.Yields (opened.insert a) words) :
    (opening a cycle x).Yields opened (if a ∈ opened then cycle else words) := by
  unfold Yields opening
  split
  · rfl
  · rename_i ha
    rw [h ha]
    exact congrArg (Prod.mk words) (OrderedSet.erase_insert ha)

end Walk

/-! ## What is left to open -/

namespace Grammar

variable (g : Grammar)

/-- How many nonterminals are not open. -/
def unopened (opened : Opened) : Nat := g.nonterminals.toList.countP (· ∉ opened)

theorem unopened_insert_le (a : Nonterminal) (opened : Opened) :
    g.unopened (opened.insert a) ≤ g.unopened opened :=
  List.countP_mono_left fun b _ hb => by
    simp only [OrderedSet.mem_insert, not_or, decide_eq_true_eq] at hb ⊢
    exact hb.2

variable {g}

theorem unopened_insert_lt {a : Nonterminal} {opened : Opened} (ha : a ∈ g.nonterminals)
    (hn : a ∉ opened) : g.unopened (opened.insert a) < g.unopened opened :=
  countP_lt_countP (fun b hb => by
    simp only [OrderedSet.mem_insert, not_or, decide_eq_true_eq] at hb ⊢
    exact hb.2) ha (by simp) (by simpa using hn)

@[simp] theorem unopened_empty : g.unopened ∅ = g.nonterminals.size := by
  simp [unopened, OrderedSet.size]

end Grammar

end TopDown
