import TopDown.Ordered.Basic

/-!
# Symbols, forms and words

A nonterminal is an uppercase ASCII letter, a terminal a lowercase one or the end mark `$`, which
stands behind the input and is no letter of it.

* `Nonterminal`, `Terminal`, `Symbol`, each with its character and its canonical order:
  nonterminals before terminals, then by character;
* `Form`, a sequence of symbols, and `Word`, a sequence of terminals;
* `Form.text`, `Word.text`: the characters, or `λ` for the empty sequence.
-/

namespace TopDown

/-! ## Nonterminals -/

/-- An uppercase ASCII letter that productions expand. -/
structure Nonterminal where
  char : Char
  isUpper : char.isUpper = true
  deriving DecidableEq

namespace Nonterminal

theorem char_injective : ∀ {a b : Nonterminal}, a.char = b.char → a = b
  | ⟨_, _⟩, ⟨_, _⟩, rfl => rfl

instance : CanonicalOrder Nonterminal := .ofKey char char_injective

/-- The nonterminal that an uppercase letter stands for. -/
def ofChar? (c : Char) : Option Nonterminal :=
  if h : c.isUpper = true then some ⟨c, h⟩ else none

@[simp] theorem ofChar?_char (a : Nonterminal) : ofChar? a.char = some a := dif_pos a.isUpper

theorem ofChar?_eq_some_iff {c : Char} {a : Nonterminal} : ofChar? c = some a ↔ c = a.char := by
  refine ⟨fun h => ?_, fun h => h ▸ ofChar?_char a⟩
  unfold ofChar? at h
  split at h
  · exact (congrArg char (Option.some.inj h) :)
  · cases h

/-- The letter as a text. -/
def text (a : Nonterminal) : String := String.singleton a.char

end Nonterminal

/-! ## Terminals -/

/-- A lowercase ASCII letter, or the mark behind the input. -/
inductive Terminal where
  | endMark
  | letter (c : Char) (isLower : c.isLower = true)
  deriving DecidableEq

namespace Terminal

/-- The character that a terminal is written as. -/
def char : Terminal → Char
  | endMark => '$'
  | letter c _ => c

theorem char_injective : ∀ {s t : Terminal}, s.char = t.char → s = t
  | endMark, endMark, _ => rfl
  | endMark, letter c hc, h => by
    cases (h : '$' = c); exact absurd hc (by decide)
  | letter c hc, endMark, h => by
    cases (h : c = '$'); exact absurd hc (by decide)
  | letter _ _, letter _ _, rfl => rfl

instance : CanonicalOrder Terminal := .ofKey char char_injective

/-- The terminal that a lowercase letter stands for. -/
def ofChar? (c : Char) : Option Terminal :=
  if h : c.isLower = true then some (letter c h) else none

@[simp] theorem ofChar?_letter (c : Char) (h : c.isLower = true) :
    ofChar? c = some (letter c h) := dif_pos h

theorem ofChar?_eq_some_iff {c : Char} {t : Terminal} :
    ofChar? c = some t ↔ c = t.char ∧ t ≠ endMark := by
  constructor
  · intro h
    unfold ofChar? at h
    split at h
    · cases h; exact ⟨rfl, nofun⟩
    · cases h
  · rintro ⟨rfl, ht⟩
    cases t with
    | endMark => exact absurd rfl ht
    | letter c h => exact ofChar?_letter c h

/-- The character as a text. -/
def text (t : Terminal) : String := String.singleton t.char

end Terminal

/-! ## Symbols -/

/-- A nonterminal or a terminal. -/
inductive Symbol where
  | nonterminal (a : Nonterminal)
  | terminal (t : Terminal)
  deriving DecidableEq

namespace Symbol

/-- The character that a symbol is written as. -/
def char : Symbol → Char
  | nonterminal a => a.char
  | terminal t => t.char

/-- The nonterminal, if it is one. -/
def nonterminal? : Symbol → Option Nonterminal
  | nonterminal a => some a
  | terminal _ => none

/-- The terminal, if it is one. -/
def terminal? : Symbol → Option Terminal
  | nonterminal _ => none
  | terminal t => some t

/-- The symbol that an ASCII letter stands for. -/
def ofLetter? (c : Char) : Option Symbol :=
  ((Nonterminal.ofChar? c).map nonterminal).or ((Terminal.ofChar? c).map terminal)

/-- The symbols that letters stand for are all but the end mark. -/
theorem ofLetter?_eq_some_iff {c : Char} {x : Symbol} :
    ofLetter? c = some x ↔ c = x.char ∧ x ≠ terminal .endMark := by
  unfold ofLetter?
  rw [Option.or_eq_some_iff, Option.map_eq_some_iff, Option.map_eq_some_iff, Option.map_eq_none_iff]
  cases x with
  | nonterminal a => simp [Nonterminal.ofChar?_eq_some_iff, char]
  | terminal t =>
    simp only [reduceCtorEq, and_false, exists_false, false_or, terminal.injEq, exists_eq_right,
      Terminal.ofChar?_eq_some_iff, char, ne_eq]
    refine ⟨fun h => h.2, fun h => ⟨?_, h⟩⟩
    obtain ⟨rfl, ht⟩ := h
    -- a lowercase letter is no uppercase one
    cases t with
    | endMark => exact absurd rfl ht
    | letter c hl =>
      refine dif_neg fun hu => ?_
      have hlower : 'a'.val ≤ c.val := of_decide_eq_true (Bool.and_eq_true_iff.1 hl).1
      have hupper : 'A'.val ≤ c.val ∧ c.val ≤ 'Z'.val := of_decide_eq_true hu
      exact absurd (UInt32.le_trans hlower hupper.2) (by decide)

/-- The ASCII letters are the characters of all symbols but the end mark. -/
theorem isAlpha_iff {c : Char} : c.isAlpha = true ↔ ∃ x, c = char x ∧ x ≠ terminal .endMark := by
  constructor
  · intro h
    rcases Bool.or_eq_true_iff.1 h with hu | hl
    · exact ⟨nonterminal ⟨c, hu⟩, rfl, nofun⟩
    · exact ⟨terminal (.letter c hl), rfl, nofun⟩
  · rintro ⟨x, rfl, hx⟩
    match x with
    | nonterminal a => exact Bool.or_eq_true_iff.2 (.inl a.isUpper)
    | terminal (.letter c hl) => exact Bool.or_eq_true_iff.2 (.inr hl)
    | terminal .endMark => exact absurd rfl hx

theorem isAlpha_char {x : Symbol} (hx : x ≠ terminal .endMark) : x.char.isAlpha = true :=
  isAlpha_iff.2 ⟨x, rfl, hx⟩

/-- Nonterminals come before terminals. -/
protected def lt : Symbol → Symbol → Prop
  | nonterminal a, nonterminal b => a < b
  | nonterminal _, terminal _ => True
  | terminal _, nonterminal _ => False
  | terminal s, terminal t => s < t

instance : CanonicalOrder Symbol where
  lt := Symbol.lt
  decidableLt
    | nonterminal a, nonterminal b => inferInstanceAs (Decidable (a < b))
    | nonterminal _, terminal _ => .isTrue trivial
    | terminal _, nonterminal _ => .isFalse id
    | terminal s, terminal t => inferInstanceAs (Decidable (s < t))
  irrefl
    | nonterminal a => CanonicalOrder.irrefl a
    | terminal t => CanonicalOrder.irrefl t
  trans {a b c} h h' := match a, b, c, h, h' with
    | nonterminal _, nonterminal _, nonterminal _, h, h' => CanonicalOrder.trans h h'
    | terminal _, terminal _, terminal _, h, h' => CanonicalOrder.trans h h'
    | nonterminal _, _, terminal _, _, _ => trivial
    | terminal _, nonterminal _, _, h, _ => h.elim
    | _, terminal _, nonterminal _, _, h' => h'.elim
  eq_of_not_lt {a b} h h' := by
    cases a <;> cases b
    · exact congrArg nonterminal (CanonicalOrder.eq_of_not_lt h h')
    · exact absurd trivial h
    · exact absurd trivial h'
    · exact congrArg terminal (CanonicalOrder.eq_of_not_lt h h')

end Symbol

/-! ## Sequences -/

/-- A sequence of symbols. -/
abbrev Form := List Symbol

/-- A sequence of terminals. -/
abbrev Word := List Terminal

/-- How the empty sequence is written. -/
def lambda : String := "λ"

/-- The characters of a form. -/
def Form.chars (w : Form) : String := String.ofList (w.map Symbol.char)

/-- The characters of a form, or `λ`. -/
def Form.text (w : Form) : String := if w.isEmpty then lambda else Form.chars w

/-- The characters of a word. -/
def Word.chars (u : Word) : String := String.ofList (u.map Terminal.char)

/-- The characters of a word, or `λ`. -/
def Word.text (u : Word) : String := if u.isEmpty then lambda else Word.chars u

/-- A word as a form. -/
def Word.toForm (u : Word) : Form := u.map Symbol.terminal

@[simp] theorem Word.toForm_nil : Word.toForm [] = [] := rfl

@[simp] theorem Word.toForm_cons (t : Terminal) (u : Word) :
    Word.toForm (t :: u) = .terminal t :: Word.toForm u := rfl

@[simp] theorem Word.toForm_append (u v : Word) :
    Word.toForm (u ++ v) = Word.toForm u ++ Word.toForm v := List.map_append

@[simp] theorem Word.length_toForm (u : Word) : (Word.toForm u).length = u.length :=
  List.length_map _

theorem Word.take_toForm_append (u : Word) (y : Form) :
    (Word.toForm u ++ y).take u.length = Word.toForm u := List.take_left' (length_toForm u)

theorem Word.toForm_take (k : Nat) (u : Word) :
    Word.toForm (u.take k) = (Word.toForm u).take k := List.map_take

theorem Word.toForm_inj {u v : Word} : Word.toForm u = Word.toForm v ↔ u = v :=
  List.map_inj_right fun _ _ => Symbol.terminal.inj

/-- A word holds no nonterminal. -/
theorem Word.nonterminal_not_mem_toForm (a : Nonterminal) (u : Word) :
    .nonterminal a ∉ Word.toForm u := by
  simp [Word.toForm]

end TopDown
