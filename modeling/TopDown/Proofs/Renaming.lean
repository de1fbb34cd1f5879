import Mathlib.Logic.Equiv.Defs
import TopDown.Grammar.Basic
import TopDown.WordSet

/-!
# Renaming

A renaming exchanges the uppercase letters among themselves and the lowercase letters among
themselves; the end mark stays. It carries a grammar to another if it takes its declarations and its
set of productions to those of the other, in whatever order they are declared there.

* `Renaming`, `Renaming.symm`, and how a renaming acts on symbols, forms, words, productions, sets
  of words and texts;
* `Renaming.symm_text_text` and its like: the inverse renaming takes it all back;
* `Renaming.Carries`, `Renaming.Carries.symm`.
-/

namespace TopDown

/-- An exchange of letters that keeps their kinds and the end mark. -/
structure Renaming where
  nonterminal : Nonterminal ≃ Nonterminal
  terminal : Terminal ≃ Terminal
  terminal_endMark : terminal .endMark = .endMark

namespace Renaming

variable (ρ : Renaming)

/-- The renaming that takes the letters back. -/
def symm : Renaming where
  nonterminal := ρ.nonterminal.symm
  terminal := ρ.terminal.symm
  terminal_endMark := by rw [Equiv.symm_apply_eq, ρ.terminal_endMark]

@[simp] theorem symm_symm : ρ.symm.symm = ρ := rfl

/-! ## Symbols and sequences -/

/-- The symbol that another is renamed to. -/
def symbol : Symbol → Symbol
  | .nonterminal a => .nonterminal (ρ.nonterminal a)
  | .terminal t => .terminal (ρ.terminal t)

/-- The form with every symbol renamed. -/
def form (w : Form) : Form := w.map ρ.symbol

/-- The word with every terminal renamed. -/
def word (u : Word) : Word := u.map ρ.terminal

/-- The production with both sides renamed. -/
def production (p : Production) : Production := ⟨ρ.nonterminal p.left, ρ.form p.right⟩

/-- The set of the renamed words. -/
def words (s : WordSet) : WordSet := s.image ρ.word

@[simp] theorem symm_nonterminal (a : Nonterminal) :
    ρ.symm.nonterminal (ρ.nonterminal a) = a := ρ.nonterminal.symm_apply_apply a

@[simp] theorem symm_terminal (t : Terminal) : ρ.symm.terminal (ρ.terminal t) = t :=
  ρ.terminal.symm_apply_apply t

@[simp] theorem symm_symbol (x : Symbol) : ρ.symm.symbol (ρ.symbol x) = x := by
  cases x <;> simp [symbol]

@[simp] theorem symm_form (w : Form) : ρ.symm.form (ρ.form w) = w := by
  simp [form, Function.comp_def]

@[simp] theorem symm_word (u : Word) : ρ.symm.word (ρ.word u) = u := by
  simp [word, Function.comp_def]

@[simp] theorem symm_production (p : Production) :
    ρ.symm.production (ρ.production p) = p := by
  simp [production]

theorem symbol_injective {x y : Symbol} (h : ρ.symbol x = ρ.symbol y) : x = y := by
  rw [← ρ.symm_symbol x, h, symm_symbol]

theorem word_injective {u v : Word} (h : ρ.word u = ρ.word v) : u = v := by
  rw [← ρ.symm_word u, h, symm_word]

theorem production_injective {p q : Production} (h : ρ.production p = ρ.production q) : p = q := by
  rw [← ρ.symm_production p, h, symm_production]

theorem mem_map_production {p : Production} {l : List Production} :
    p ∈ l.map ρ.production ↔ ρ.symm.production p ∈ l := by
  rw [List.mem_map]
  constructor
  · rintro ⟨q, hq, rfl⟩
    rwa [symm_production]
  · intro hp
    exact ⟨_, hp, ρ.symm.symm_production p⟩

@[simp] theorem form_nil : ρ.form [] = [] := rfl

@[simp] theorem form_nonterminal (a : Nonterminal) (w : Form) :
    ρ.form (.nonterminal a :: w) = .nonterminal (ρ.nonterminal a) :: ρ.form w := rfl

@[simp] theorem form_terminal (t : Terminal) (w : Form) :
    ρ.form (.terminal t :: w) = .terminal (ρ.terminal t) :: ρ.form w := rfl

@[simp] theorem form_append (v w : Form) : ρ.form (v ++ w) = ρ.form v ++ ρ.form w :=
  List.map_append

@[simp] theorem form_toForm (u : Word) : ρ.form (Word.toForm u) = Word.toForm (ρ.word u) := by
  simp [form, word, Word.toForm, symbol]

@[simp] theorem word_nil : ρ.word [] = [] := rfl

@[simp] theorem word_append (u v : Word) : ρ.word (u ++ v) = ρ.word u ++ ρ.word v :=
  List.map_append

@[simp] theorem word_take (k : Nat) (u : Word) : ρ.word (u.take k) = (ρ.word u).take k :=
  List.map_take

@[simp] theorem word_replicate (k : Nat) :
    ρ.word (List.replicate k .endMark) = List.replicate k .endMark := by
  simp [word, ρ.terminal_endMark]

@[simp] theorem production_left (p : Production) :
    (ρ.production p).left = ρ.nonterminal p.left := rfl

@[simp] theorem production_right (p : Production) :
    (ρ.production p).right = ρ.form p.right := rfl

@[simp] theorem production_isLambda (p : Production) :
    (ρ.production p).isLambda = p.isLambda := by
  simp [Production.isLambda, form]

theorem form_afterIn (s : Symbol) (w : Form) :
    Production.afterIn (ρ.symbol s) (ρ.form w) = ρ.form (Production.afterIn s w) := by
  induction w with
  | nil => rfl
  | cons x w ih =>
    have hcons : ρ.form (x :: w) = ρ.symbol x :: ρ.form w := rfl
    rw [hcons, Production.afterIn, Production.afterIn]
    by_cases hx : x = s
    · rw [if_pos hx, if_pos (congrArg ρ.symbol hx)]
    · rw [if_neg hx, if_neg (fun h => hx (ρ.symbol_injective h)), ih]

/-- What stands behind a renamed nonterminal. -/
@[simp] theorem production_after (p : Production) (a : Nonterminal) :
    (ρ.production p).after (.nonterminal (ρ.nonterminal a)) =
      ρ.form (p.after (.nonterminal a)) :=
  ρ.form_afterIn (.nonterminal a) p.right

/-! ## Sets of words -/

theorem word_mem_words {s : WordSet} {u : Word} : ρ.word u ∈ ρ.words s ↔ u ∈ s :=
  OrderedSet.mem_image_of_injective ρ.word_injective

@[simp] theorem words_empty : ρ.words ∅ = ∅ := rfl

@[simp] theorem words_singleton (u : Word) : ρ.words {u} = {ρ.word u} := rfl

theorem words_union (s t : WordSet) : ρ.words (s ∪ t) = ρ.words s ∪ ρ.words t :=
  OrderedSet.image_union

/-- A renamed nonterminal is among the renamed ones iff it was among them before. -/
theorem nonterminal_mem_image {s : OrderedSet Nonterminal} {a : Nonterminal} :
    ρ.nonterminal a ∈ s.image ρ.nonterminal ↔ a ∈ s :=
  OrderedSet.mem_image_of_injective ρ.nonterminal.injective.eq_iff.1

/-! ## Texts -/

/-- A letter is renamed, any other character stays. -/
def char (c : Char) : Char :=
  match Symbol.ofLetter? c with
  | some x => (ρ.symbol x).char
  | none => c

/-- The text with every letter renamed. -/
def text (s : String) : String := String.ofList (s.toList.map ρ.char)

theorem symbol_ne_endMark {x : Symbol} (h : x ≠ .terminal .endMark) :
    ρ.symbol x ≠ .terminal .endMark := fun e => by
  have hmark : ρ.symbol (.terminal .endMark) = .terminal .endMark :=
    congrArg Symbol.terminal ρ.terminal_endMark
  exact h (ρ.symbol_injective (e.trans hmark.symm))

theorem char_char {x : Symbol} (h : x ≠ .terminal .endMark) :
    ρ.char x.char = (ρ.symbol x).char := by
  rw [char, Symbol.ofLetter?_eq_some_iff.2 ⟨rfl, h⟩]

@[simp] theorem symm_char (c : Char) : ρ.symm.char (ρ.char c) = c := by
  match hc : Symbol.ofLetter? c with
  | some x =>
    obtain ⟨rfl, hx⟩ := Symbol.ofLetter?_eq_some_iff.1 hc
    rw [ρ.char_char hx, ρ.symm.char_char (ρ.symbol_ne_endMark hx), symm_symbol]
  | none =>
    have hsame : ∀ ρ' : Renaming, ρ'.char c = c := fun ρ' => by rw [char, hc]
    rw [hsame ρ, hsame ρ.symm]

@[simp] theorem symm_text (s : String) : ρ.symm.text (ρ.text s) = s := by
  simp [text, Function.comp_def]

/-! ## Grammars -/

/-- The renaming takes what the grammar `g` declares, its sentence symbol and its productions to
those of `g'`. -/
structure Carries (g g' : Grammar) : Prop where
  nonterminals : g'.nonterminals = g.nonterminals.image ρ.nonterminal
  terminals : g'.terminals = g.terminals.image ρ.terminal
  start : g'.start = ρ.nonterminal g.start
  mem_productions : ∀ p, p ∈ g'.productions ↔ p ∈ g.productions.map ρ.production

namespace Carries

variable {ρ} {g g' : Grammar} (h : ρ.Carries g g') {a : Nonterminal} {p : Production}
include h

theorem mem_nonterminals : ρ.nonterminal a ∈ g'.nonterminals ↔ a ∈ g.nonterminals := by
  rw [h.nonterminals, ρ.nonterminal_mem_image]

theorem mem_terminals {t : Terminal} : ρ.terminal t ∈ g'.terminals ↔ t ∈ g.terminals := by
  rw [h.terminals]
  exact OrderedSet.mem_image_of_injective ρ.terminal.injective.eq_iff.1

/-- The productions of the other grammar are those that are taken back to productions. -/
theorem mem_productions_iff : p ∈ g'.productions ↔ ρ.symm.production p ∈ g.productions := by
  rw [h.mem_productions, mem_map_production]

/-- The inverse renaming carries the grammars the other way. -/
theorem symm : ρ.symm.Carries g' g where
  nonterminals := by
    rw [h.nonterminals]
    exact (OrderedSet.image_image_of_leftInverse ρ.symm_nonterminal).symm
  terminals := by
    rw [h.terminals]
    exact (OrderedSet.image_image_of_leftInverse ρ.symm_terminal).symm
  start := by rw [h.start, symm_nonterminal]
  mem_productions := fun p => by
    rw [mem_map_production, h.mem_productions_iff, symm_symm, symm_production]

theorem mem_productionsOf :
    p ∈ g'.productionsOf (ρ.nonterminal a) ↔ p ∈ (g.productionsOf a).map ρ.production := by
  have hleft : (ρ.symm.production p).left = a ↔ p.left = ρ.nonterminal a :=
    Equiv.symm_apply_eq ρ.nonterminal
  rw [mem_map_production, g'.mem_productionsOf, g.mem_productionsOf, h.mem_productions_iff, hleft]

end Carries

end Renaming

end TopDown
