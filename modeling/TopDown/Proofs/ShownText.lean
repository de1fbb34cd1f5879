import TopDown.Production
import TopDown.Proofs.Items

/-!
# Reading what is shown

The texts that the reports are made of can be read: no two symbols share a character, `λ` is none of
them, and the arrow of a production stands behind the first letter.

* `mapM_eq_some_map`: a list is read if each of its members is;
* `Symbol.ofChar?`, `Form.ofText?`, `Word.ofText?`, `Production.ofText?` and `decimal?`, each the
  reader of a text; `Form.mem_text`, `Production.not_mem_text`: the characters of the texts.
-/

namespace TopDown

/-- All members of a list are read if each of them is. -/
theorem mapM_eq_some_map {α β : Type} {f : α → Option β} {g : α → β} {l : List α}
    (h : ∀ a ∈ l, f a = some (g a)) : l.mapM f = some (l.map g) := by
  induction l with
  | nil => rfl
  | cons a l ih =>
    obtain ⟨ha, hl⟩ := List.forall_mem_cons.1 h
    rw [List.mapM_cons, ha, ih hl]
    rfl

theorem mapM_map_eq_some {α β : Type} {f : α → Option β} {g : β → α} {l : List β}
    (h : ∀ b ∈ l, f (g b) = some b) : (l.map g).mapM f = some l := by
  rw [List.mapM_map]
  have hread : ∀ b ∈ l, (f ∘ g) b = some (id b) := h
  rw [mapM_eq_some_map hread, List.map_id]

/-! ## Symbols -/

/-- The nonterminal of a text. -/
def Nonterminal.ofText? : List Char → Option Nonterminal
  | [c] => ofChar? c
  | _ => none

theorem Nonterminal.toList_text (a : Nonterminal) : a.text.toList = [a.char] :=
  String.toList_singleton a.char

@[simp] theorem Nonterminal.ofText?_text (a : Nonterminal) : ofText? a.text.toList = some a := by
  rw [toList_text]
  exact ofChar?_char a

namespace Symbol

/-- The symbol that is written as a character, which may be the end mark. -/
def ofChar? (c : Char) : Option Symbol :=
  if c = '$' then some (terminal .endMark) else ofLetter? c

@[simp] theorem ofChar?_char (x : Symbol) : ofChar? x.char = some x := by
  by_cases hx : x = terminal .endMark
  · rw [hx]
    rfl
  · have hne : x.char ≠ '$' := by
      intro he
      have halpha : x.char.isAlpha = true := isAlpha_char hx
      rw [he] at halpha
      exact absurd halpha (by decide)
    rw [ofChar?, if_neg hne]
    exact ofLetter?_eq_some_iff.2 ⟨rfl, hx⟩

/-- A character that no symbol is written as. -/
theorem char_ne {c : Char} (hc : ofChar? c = none) (x : Symbol) : x.char ≠ c := by
  rintro rfl
  rw [ofChar?_char] at hc
  cases hc

theorem isBlank_char (x : Symbol) : isBlank x.char = false := by
  by_cases hx : x = terminal .endMark
  · rw [hx]
    decide
  · exact isBlank_of_isAlpha (isAlpha_char hx)

end Symbol

namespace Nonterminal

/-- A character that no symbol is written as. -/
theorem not_mem_text {c : Char} (hc : Symbol.ofChar? c = none) (a : Nonterminal) :
    c ∉ a.text.toList := by
  rw [toList_text, List.mem_singleton]
  exact (Symbol.char_ne hc (.nonterminal a)).symm

theorem isBlank_text (a : Nonterminal) : ∀ c ∈ a.text.toList, isBlank c = false := by
  intro c hc
  rw [toList_text, List.mem_singleton] at hc
  rw [hc]
  exact (Symbol.nonterminal a).isBlank_char

end Nonterminal

/-! ## Forms and words -/

namespace Form

/-- The form of a text. -/
def ofText? (s : List Char) : Option Form :=
  if s = lambda.toList then some [] else s.mapM Symbol.ofChar?

variable {w : Form} {c : Char}

theorem toList_text (w : Form) :
    (Form.text w).toList = if w = [] then ['λ'] else w.map Symbol.char := by
  unfold Form.text
  cases w with
  | nil => rfl
  | cons x w => exact String.toList_ofList

@[simp] theorem ofText?_text (w : Form) : ofText? (Form.text w).toList = some w := by
  have hchars : (w.map Symbol.char).mapM Symbol.ofChar? = some w :=
    mapM_map_eq_some fun x _ => Symbol.ofChar?_char x
  rw [toList_text]
  by_cases hw : w = []
  · rw [if_pos hw, hw]
    rfl
  · have hne : w.map Symbol.char ≠ lambda.toList := by
      intro he
      rw [he] at hchars
      cases hchars
    rw [if_neg hw, ofText?, if_neg hne, hchars]

/-- A text of a form consists of its characters or is `λ`. -/
theorem mem_text (hc : c ∈ (Form.text w).toList) : c = 'λ' ∨ ∃ x : Symbol, c = x.char := by
  rw [toList_text] at hc
  split at hc
  · exact .inl (List.mem_singleton.1 hc)
  · obtain ⟨x, -, rfl⟩ := List.mem_map.1 hc
    exact .inr ⟨x, rfl⟩

/-- A character that neither a symbol nor `λ` is written as. -/
theorem not_mem_text (hc : Symbol.ofChar? c = none) (hlambda : c ≠ 'λ') (w : Form) :
    c ∉ (Form.text w).toList := by
  intro h
  rcases mem_text h with rfl | ⟨x, rfl⟩
  · exact hlambda rfl
  · exact Symbol.char_ne hc x rfl

theorem isBlank_text : ∀ c ∈ (Form.text w).toList, isBlank c = false := by
  intro c hc
  rcases mem_text hc with rfl | ⟨x, rfl⟩
  · decide
  · exact x.isBlank_char

end Form

namespace Word

theorem text_toForm (u : Word) : Form.text (toForm u) = Word.text u := by
  have hchars : u.toForm.map Symbol.char = u.map Terminal.char := by
    rw [toForm, List.map_map]
    rfl
  unfold Form.text Word.text Form.chars Word.chars
  rw [hchars, toForm, List.isEmpty_map]

/-- A character that neither a symbol nor `λ` is written as. -/
theorem not_mem_text {c : Char} (hc : Symbol.ofChar? c = none) (hlambda : c ≠ 'λ') (u : Word) :
    c ∉ (Word.text u).toList := by
  rw [← text_toForm]
  exact Form.not_mem_text hc hlambda _

theorem isBlank_text (u : Word) : ∀ c ∈ (Word.text u).toList, isBlank c = false := by
  rw [← text_toForm]
  exact Form.isBlank_text

/-- The word of a text. -/
def ofText? (s : List Char) : Option Word :=
  (Form.ofText? s).bind fun w => w.mapM Symbol.terminal?

@[simp] theorem ofText?_text (u : Word) : ofText? (Word.text u).toList = some u := by
  have hterminals : u.toForm.mapM Symbol.terminal? = some u := mapM_map_eq_some fun _ _ => rfl
  rw [ofText?, ← text_toForm, Form.ofText?_text]
  exact hterminals

end Word

/-! ## Productions -/

namespace Production

/-- The production of a text. -/
def ofText? : List Char → Option Production
  | c :: ' ' :: '-' :: '>' :: ' ' :: s => do return ⟨← Nonterminal.ofChar? c, ← Form.ofText? s⟩
  | _ => none

theorem toList_text_eq (p : Production) :
    p.text.toList = p.left.char :: ' ' :: '-' :: '>' :: ' ' :: (Form.text p.right).toList := by
  rw [text, String.toList_append, String.toList_append, Nonterminal.toList_text]
  rfl

@[simp] theorem ofText?_text (p : Production) : ofText? p.text.toList = some p := by
  rw [toList_text_eq, ofText?, Nonterminal.ofChar?_char, Form.ofText?_text]
  rfl

/-- A character that neither a symbol nor the arrow nor `λ` is written with. -/
theorem not_mem_text {c : Char} (hc : Symbol.ofChar? c = none) (hmarks : c ∉ [' ', '-', '>', 'λ'])
    (p : Production) : c ∉ p.text.toList := by
  simp only [List.mem_cons, List.not_mem_nil, or_false, not_or] at hmarks
  obtain ⟨hblank, hdash, hhead, hlambda⟩ := hmarks
  have hleft : c ≠ p.left.char := (Symbol.char_ne hc (.nonterminal p.left)).symm
  have hright : c ∉ (Form.text p.right).toList := Form.not_mem_text hc hlambda p.right
  rw [toList_text_eq]
  simp only [List.mem_cons, not_or]
  exact ⟨hleft, hblank, hdash, hhead, hblank, hright⟩

end Production

/-! ## Numbers -/

/-- The number with the given decimal digits. -/
def decimal? (s : List Char) : Option Nat :=
  let n := Nat.ofDigitChars 10 s 0
  if Nat.toDigits 10 n = s then some n else none

@[simp] theorem decimal?_toDigits (n : Nat) : decimal? (Nat.toDigits 10 n) = some n := by
  rw [decimal?, Nat.ofDigitChars_ten_toDigits]
  exact if_pos rfl

/-- A number has at least one digit. -/
theorem decimal?_nil : decimal? [] = none := by
  rw [decimal?]
  exact if_neg Nat.toDigits_ne_nil

theorem toList_toString (n : Nat) : (toString n).toList = Nat.toDigits 10 n := Nat.toList_repr

end TopDown
