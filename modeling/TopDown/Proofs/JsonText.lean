import TopDown.Proofs.ShownText
import TopDown.Text.Json

/-!
# JSON texts

The grammar of the texts that denote JSON values, as far as there are such values here, which have no
`null` and only natural numbers: white space may stand around every value and every name, and a
character of a string may be written as itself or by any of its escapes. A reader of such texts shows
that a text denotes one value at most, and the compact text of a value denotes it.

* `CharSpelling`, `CharsSpelling`, `Spelling`: how characters, strings and values are written;
  `IsText`: the texts that denote a value;
* `readChar?`, `readChars`, `readValue`, `read?`: a reader; `Spelling.isRead`: it reads whatever the
  grammar allows, and so **`IsText.unique`**;
* `isText_render`, **`isText_render_iff`**: the compact text of a value denotes it and nothing else.
-/

namespace TopDown

namespace Json

/-! ## Characters of strings -/

/-- The value of a hexadecimal digit. -/
def hexDigit? (c : Char) : Option Nat :=
  if c.isDigit then some (c.toNat - 48)
  else if 'a' ≤ c ∧ c ≤ 'f' then some (c.toNat - 87)
  else if 'A' ≤ c ∧ c ≤ 'F' then some (c.toNat - 55)
  else none

/-- The number of four hexadecimal digits. -/
def fourDigits? (a b c d : Char) : Option Nat := do
  let high := (← hexDigit? a) * 16 + (← hexDigit? b)
  let low := (← hexDigit? c) * 16 + (← hexDigit? d)
  return high * 256 + low

/-- What is read off the front of a text, and the rest. -/
abbrev Reader (α : Type) := List Char → Option (α × List Char)

/-- The code unit of four hexadecimal digits. -/
def codeUnit? : Reader Nat
  | a :: b :: c :: d :: s => (fourDigits? a b c d).map (·, s)
  | _ => none

/-- The letters that stand for a character behind a backslash. -/
def escapes : List (Char × Char) :=
  [('"', '"'), ('\\', '\\'), ('/', '/'), ('b', '\x08'), ('f', '\x0c'), ('n', '\n'), ('r', '\r'),
   ('t', '\t')]

/-- The first of two code units for one character. -/
def IsHighUnit (n : Nat) : Prop := 0xD800 ≤ n ∧ n < 0xDC00

/-- The second of two code units for one character. -/
def IsLowUnit (n : Nat) : Prop := 0xDC00 ≤ n ∧ n < 0xE000

instance (n : Nat) : Decidable (IsHighUnit n) := inferInstanceAs (Decidable (_ ∧ _))

instance (n : Nat) : Decidable (IsLowUnit n) := inferInstanceAs (Decidable (_ ∧ _))

/-- The code point of a character in two code units. -/
def joinUnits (m n : Nat) : Nat := 0x10000 + (m - 0xD800) * 0x400 + (n - 0xDC00)

/-- How a character may be written in a string: as itself, by a letter behind a backslash, or by its
code units. -/
inductive CharSpelling : Char → List Char → Prop
  | plain {c : Char} : 0x20 ≤ c.toNat → c ≠ '"' → c ≠ '\\' → CharSpelling c [c]
  | letter {c e : Char} : escapes.lookup e = some c → CharSpelling c ['\\', e]
  | unit {c : Char} {t : List Char} : codeUnit? t = some (c.toNat, []) →
      CharSpelling c ('\\' :: 'u' :: t)
  | pair {c : Char} {t t' : List Char} {m n : Nat} : codeUnit? t = some (m, []) →
      codeUnit? t' = some (n, []) → IsHighUnit m → IsLowUnit n → c.toNat = joinUnits m n →
      CharSpelling c ('\\' :: 'u' :: (t ++ '\\' :: 'u' :: t'))

/-- How the characters of a string may be written. -/
inductive CharsSpelling : List Char → List Char → Prop
  | nil : CharsSpelling [] []
  | cons {c : Char} {s t t' : List Char} : CharSpelling c t → CharsSpelling s t' →
      CharsSpelling (c :: s) (t ++ t')

/-- The character of one or two code units. -/
def readUnits? : Reader Char := fun s => do
  let (m, s) ← codeUnit? s
  if IsHighUnit m then
    match s with
    | '\\' :: 'u' :: s => do
      let (n, s) ← codeUnit? s
      if IsLowUnit n then some (Char.ofNat (joinUnits m n), s) else none
    | _ => none
  else if IsLowUnit m then none
  else some (Char.ofNat m, s)

/-- One character of a string. -/
def readChar? : Reader Char
  | '\\' :: 'u' :: s => readUnits? s
  | '\\' :: e :: s => (escapes.lookup e).map (·, s)
  | c :: s => if 0x20 ≤ c.toNat ∧ c ≠ '"' ∧ c ≠ '\\' then some (c, s) else none
  | [] => none

theorem codeUnit?_append {t : List Char} {n : Nat} (h : codeUnit? t = some (n, []))
    (r : List Char) : codeUnit? (t ++ r) = some (n, r) := by
  match t, h with
  | a :: b :: c :: d :: s, h =>
    obtain ⟨m, hm, he⟩ := Option.map_eq_some_iff.1 h
    cases he
    simp only [List.cons_append, List.nil_append, codeUnit?, hm, Option.map_some]

/-- No character has the code point of half a pair. -/
theorem not_isUnit (c : Char) : ¬ IsHighUnit c.toNat ∧ ¬ IsLowUnit c.toNat := by
  have hvalid : c.toNat < 0xD800 ∨ 0xDFFF < c.toNat ∧ c.toNat < 0x110000 := c.valid
  unfold IsHighUnit IsLowUnit
  omega

theorem CharSpelling.readChar?_eq {c : Char} {t : List Char} (h : CharSpelling c t)
    (r : List Char) : readChar? (t ++ r) = some (c, r) := by
  cases h with
  | plain hc hquote hslash =>
    rw [List.cons_append, List.nil_append, readChar?, if_pos ⟨hc, hquote, hslash⟩]
    · exact fun _ he => absurd he hslash
    · exact fun _ _ he => absurd he hslash
  | letter he =>
    rename_i e
    have hu : e ≠ 'u' := by
      rintro rfl
      cases he
    rw [List.cons_append, List.cons_append, List.nil_append, readChar?, he, Option.map_some]
    exact hu
  | unit ht =>
    obtain ⟨hhigh, hlow⟩ := not_isUnit c
    rw [List.cons_append, List.cons_append, readChar?, readUnits?, codeUnit?_append ht]
    simp only [Option.bind_eq_bind, Option.bind_some, if_neg hhigh, if_neg hlow, Char.ofNat_toNat]
  | pair ht ht' hm hn hc =>
    rw [List.cons_append, List.cons_append, List.append_assoc, readChar?, readUnits?,
      codeUnit?_append ht]
    simp only [Option.bind_eq_bind, Option.bind_some, if_pos hm, List.cons_append,
      codeUnit?_append ht', if_pos hn, ← hc, Char.ofNat_toNat]

/-! ## Strings -/

/-- The characters up to the closing quote, at most `n` of them with it. -/
def readChars : Nat → Reader (List Char)
  | 0, _ => none
  | _ + 1, '"' :: s => some ([], s)
  | n + 1, s => do
    let (c, s) ← readChar? s
    let (cs, s) ← readChars n s
    return (c :: cs, s)

/-- A string between quotes. -/
def readString : Reader String
  | '"' :: s => (readChars s.length s).map fun e => (String.ofList e.1, e.2)
  | _ => none

/-- The text of a string that is spelled between quotes. -/
def StringSpelling (s : String) (t : List Char) : Prop :=
  ∃ t', CharsSpelling s.toList t' ∧ t = '"' :: (t' ++ ['"'])

theorem CharSpelling.exists_cons {c : Char} {t : List Char} (h : CharSpelling c t) :
    ∃ d t', t = d :: t' ∧ d ≠ '"' := by
  cases h with
  | plain _ hquote _ => exact ⟨_, _, rfl, hquote⟩
  | letter _ => exact ⟨_, _, rfl, by decide⟩
  | unit _ => exact ⟨_, _, rfl, by decide⟩
  | pair _ _ _ _ _ => exact ⟨_, _, rfl, by decide⟩

theorem CharsSpelling.readChars_eq {s t : List Char} (h : CharsSpelling s t) (r : List Char)
    {n : Nat} (hn : t.length < n) : readChars n (t ++ '"' :: r) = some (s, r) := by
  induction h generalizing n with
  | nil =>
    obtain ⟨n, rfl⟩ := Nat.exists_eq_succ_of_ne_zero (Nat.ne_of_gt hn)
    rfl
  | @cons c s t t' hc hs ih =>
    obtain ⟨n, rfl⟩ := Nat.exists_eq_succ_of_ne_zero (Nat.ne_zero_of_lt hn)
    obtain ⟨d, u, ht, hd⟩ := hc.exists_cons
    have hlength : t'.length < n := by
      rw [List.length_append, ht, List.length_cons] at hn
      omega
    have hchar : readChar? (t ++ (t' ++ '"' :: r)) = some (c, t' ++ '"' :: r) :=
      hc.readChar?_eq _
    have hstep : readChars (n + 1) (t ++ (t' ++ '"' :: r)) = do
        let (c, s) ← readChar? (t ++ (t' ++ '"' :: r))
        let (cs, s) ← readChars n s
        return (c :: cs, s) := by
      rw [ht, List.cons_append, readChars]
      exact fun _ he => absurd (List.cons.inj he).1 hd
    rw [List.append_assoc, hstep, hchar]
    simp only [Option.bind_eq_bind, Option.bind_some, ih hlength]
    rfl

theorem StringSpelling.readString_eq {s : String} {t : List Char} (h : StringSpelling s t)
    (r : List Char) : readString (t ++ r) = some (s, r) := by
  obtain ⟨t', ht', rfl⟩ := h
  have hchars : readChars (t' ++ '"' :: r).length (t' ++ '"' :: r) = some (s.toList, r) := by
    refine ht'.readChars_eq r ?_
    rw [List.length_append, List.length_cons]
    omega
  rw [List.cons_append, List.append_assoc, List.cons_append, List.nil_append, readString, hchars,
    Option.map_some, String.ofList_toList]

/-! ## Values -/

/-- White space between the parts of a text. -/
def isSpace (c : Char) : Bool := c = ' ' || c = '\t' || c = '\n' || c = '\r'

/-- What a piece of text can denote. An element is a value with white space around it. -/
inductive Phrase
  | value (v : Json)
  | element (v : Json)
  | member (name : String) (v : Json)
  | items (vs : List Json)
  | members (ms : List (String × Json))

/-- How values, and the items and members that they consist of, may be written. -/
inductive Spelling : Phrase → List Char → Prop
  | yes : Spelling (.value (.bool true)) ['t', 'r', 'u', 'e']
  | no : Spelling (.value (.bool false)) ['f', 'a', 'l', 's', 'e']
  | number {n : Nat} : Spelling (.value (.number n)) (Nat.toDigits 10 n)
  | string {s : String} {t : List Char} : StringSpelling s t → Spelling (.value (.string s)) t
  | emptyArray {b : List Char} : (∀ c ∈ b, isSpace c = true) →
      Spelling (.value (.array [])) ('[' :: (b ++ [']']))
  | array {vs : List Json} {t : List Char} : Spelling (.items vs) t →
      Spelling (.value (.array vs)) ('[' :: (t ++ [']']))
  | emptyObject {b : List Char} : (∀ c ∈ b, isSpace c = true) →
      Spelling (.value (.object [])) ('\x7b' :: (b ++ ['\x7d']))
  | object {ms : List (String × Json)} {t : List Char} : Spelling (.members ms) t →
      Spelling (.value (.object ms)) ('\x7b' :: (t ++ ['\x7d']))
  | element {v : Json} {b t b' : List Char} : (∀ c ∈ b, isSpace c = true) →
      Spelling (.value v) t → (∀ c ∈ b', isSpace c = true) → Spelling (.element v) (b ++ t ++ b')
  | member {name : String} {v : Json} {b t b' t' : List Char} : (∀ c ∈ b, isSpace c = true) →
      StringSpelling name t → (∀ c ∈ b', isSpace c = true) → Spelling (.element v) t' →
      Spelling (.member name v) (b ++ t ++ b' ++ ':' :: t')
  | item {v : Json} {t : List Char} : Spelling (.element v) t → Spelling (.items [v]) t
  | items {v : Json} {vs : List Json} {t t' : List Char} : Spelling (.element v) t →
      Spelling (.items vs) t' → Spelling (.items (v :: vs)) (t ++ ',' :: t')
  | lastMember {name : String} {v : Json} {t : List Char} : Spelling (.member name v) t →
      Spelling (.members [(name, v)]) t
  | members {name : String} {v : Json} {ms : List (String × Json)} {t t' : List Char} :
      Spelling (.member name v) t → Spelling (.members ms) t' →
      Spelling (.members ((name, v) :: ms)) (t ++ ',' :: t')

/-- The texts that denote a value. -/
def IsText (v : Json) (s : String) : Prop := Spelling (.element v) s.toList

/-! ## A reader of values -/

variable {α : Type}

/-- What is read between white space. -/
def padded (read : Reader α) : Reader α := fun s =>
  (read (s.dropWhile isSpace)).map fun e => (e.1, e.2.dropWhile isSpace)

/-- Items with a comma between two of them up to the character `close`, at most `n` of them. -/
def sequence (item : Reader α) (close : Char) : Nat → Reader (List α)
  | 0, _ => none
  | n + 1, s => do
    match ← item s with
    | (a, c :: s) =>
      if c = close then return ([a], s)
      else if c = ',' then do
        let (l, s) ← sequence item close n s
        return (a :: l, s)
      else none
    | (_, []) => none

/-- Any number of items up to the character `close`. -/
def enclosed (item : Reader α) (close : Char) : Reader (List α) := fun s =>
  (sequence item close s.length s).or <|
    match s.dropWhile isSpace with
    | c :: s => if c = close then some ([], s) else none
    | [] => none

/-- A name and a value. -/
def readMember (value : Reader Json) : Reader (String × Json) := fun s => do
  match ← padded readString s with
  | (name, ':' :: s) => do
    let (v, s) ← padded value s
    return ((name, v), s)
  | _ => none

/-- A value with no more than `n` values inside each other. -/
def readValue : Nat → Reader Json
  | 0, _ => none
  | _ + 1, 't' :: 'r' :: 'u' :: 'e' :: s => some (.bool true, s)
  | _ + 1, 'f' :: 'a' :: 'l' :: 's' :: 'e' :: s => some (.bool false, s)
  | _ + 1, '"' :: s => (readString ('"' :: s)).map fun e => (.string e.1, e.2)
  | n + 1, '[' :: s => (enclosed (padded (readValue n)) ']' s).map fun e => (.array e.1, e.2)
  | n + 1, '\x7b' :: s =>
    (enclosed (readMember (readValue n)) '\x7d' s).map fun e => (.object e.1, e.2)
  | _ + 1, s =>
    (decimal? (s.takeWhile Char.isDigit)).map fun m => (.number m, s.dropWhile Char.isDigit)

/-- The value of a text. -/
def read? (s : String) : Option Json :=
  match padded (readValue s.length) s.toList with
  | some (v, []) => some v
  | _ => none

/-! ## The reader reads what is spelled -/

section Reader

variable {read item : Reader α} {close : Char} {a : α} {l : List α} {b t b' t' r : List Char}

theorem dropWhile_isSpace_append {c : Char} (hb : ∀ c ∈ b, isSpace c = true)
    (hc : isSpace c = false) : (b ++ c :: r).dropWhile isSpace = c :: r := by
  have hnot : ¬ isSpace c = true := Bool.eq_false_iff.1 hc
  rw [List.dropWhile_append_of_pos hb, List.dropWhile_cons_of_neg hnot]

theorem padded_eq (hb : ∀ c ∈ b, isSpace c = true)
    (ht : ∃ c t', t = c :: t' ∧ isSpace c = false)
    (hread : read (t ++ (b' ++ r)) = some (a, b' ++ r)) (hb' : ∀ c ∈ b', isSpace c = true)
    (hr : ∀ c ∈ r.head?, isSpace c = false) : padded read (b ++ t ++ b' ++ r) = some (a, r) := by
  have hfront : (b ++ t ++ b' ++ r).dropWhile isSpace = t ++ (b' ++ r) := by
    obtain ⟨c, t', rfl, hc⟩ := ht
    rw [List.append_assoc, List.append_assoc]
    exact dropWhile_isSpace_append hb hc
  have hback : (b' ++ r).dropWhile isSpace = r := by
    rw [List.dropWhile_append_of_pos hb',
      List.dropWhile_eq_self_iff.2 (not_getElem_zero hr)]
  rw [padded, hfront, hread, Option.map_some, hback]

theorem padded_eq_none {c : Char} (hb : ∀ c ∈ b, isSpace c = true) (hc : isSpace c = false)
    (h : read (c :: r) = none) : padded read (b ++ c :: r) = none := by
  rw [padded, dropWhile_isSpace_append hb hc, h, Option.map_none]

/-- All items of a text are read, whatever number of them is allowed that is not too small. -/
def ReadsAll (item : Reader α) (close : Char) (l : List α) (t r : List Char) : Prop :=
  ∀ n, t.length < n → sequence item close n (t ++ close :: r) = some (l, r)

theorem readsAll_last (h : item (t ++ close :: r) = some (a, close :: r)) :
    ReadsAll item close [a] t r := by
  intro n hn
  obtain ⟨n, rfl⟩ := Nat.exists_eq_succ_of_ne_zero (Nat.ne_zero_of_lt hn)
  simp only [sequence, h, Option.bind_eq_bind, Option.bind_some, if_pos]
  rfl

theorem readsAll_cons (hclose : close ≠ ',')
    (h : item (t ++ ',' :: (t' ++ close :: r)) = some (a, ',' :: (t' ++ close :: r)))
    (hl : ReadsAll item close l t' r) : ReadsAll item close (a :: l) (t ++ ',' :: t') r := by
  intro n hn
  obtain ⟨n, rfl⟩ := Nat.exists_eq_succ_of_ne_zero (Nat.ne_zero_of_lt hn)
  rw [List.length_append, List.length_cons] at hn
  have hrest : sequence item close n (t' ++ close :: r) = some (l, r) := hl n (by omega)
  rw [List.append_assoc, List.cons_append]
  simp only [sequence, h, hrest, Option.bind_eq_bind, Option.bind_some, if_neg hclose.symm, if_pos]
  rfl

theorem enclosed_of_readsAll (h : ReadsAll item close l t r) :
    enclosed item close (t ++ close :: r) = some (l, r) := by
  have hlength : t.length < (t ++ close :: r).length := by
    rw [List.length_append, List.length_cons]
    omega
  rw [enclosed, h _ hlength, Option.some_or]

theorem enclosed_nil (hb : ∀ c ∈ b, isSpace c = true) (hclose : isSpace close = false)
    (h : item (b ++ close :: r) = none) : enclosed item close (b ++ close :: r) = some ([], r) := by
  have hsequence : sequence item close (b ++ close :: r).length (b ++ close :: r) = none := by
    cases (b ++ close :: r).length with
    | zero => rfl
    | succ n => simp only [sequence, h, Option.bind_eq_bind, Option.bind_none]
  rw [enclosed, hsequence, dropWhile_isSpace_append hb hclose, Option.none_or]
  exact if_pos rfl

end Reader

theorem isSpace_of_isDigit {c : Char} (h : c.isDigit = true) : isSpace c = false := by
  cases hc : isSpace c with
  | false => rfl
  | true =>
    simp only [isSpace, Bool.or_eq_true, decide_eq_true_eq] at hc
    rcases hc with ((rfl | rfl) | rfl) | rfl <;> cases h

theorem isDigit_of_isSpace {c : Char} (h : isSpace c = true) : c.isDigit = false := by
  cases hc : c.isDigit with
  | false => rfl
  | true => rw [isSpace_of_isDigit hc] at h; cases h

/-- What may stand behind a number. -/
def EndsNumber (r : List Char) : Prop := ∀ c ∈ r.head?, c.isDigit = false

/-- What may stand behind an element. -/
def EndsElement (r : List Char) : Prop := ∀ c ∈ r.head?, c.isDigit = false ∧ isSpace c = false

theorem endsElement_cons {c : Char} (hdigit : c.isDigit = false) (hspace : isSpace c = false)
    (r : List Char) : EndsElement (c :: r) := by
  rintro c ⟨⟩
  exact ⟨hdigit, hspace⟩

theorem endsNumber_append {b r : List Char} (hb : ∀ c ∈ b, isSpace c = true)
    (hr : EndsElement r) : EndsNumber (b ++ r) := by
  cases b with
  | nil => exact fun c hc => (hr c hc).1
  | cons c b =>
    rintro c ⟨⟩
    exact isDigit_of_isSpace (hb c List.mem_cons_self)

/-- The reader finds a phrase at the front of a text. -/
def Phrase.IsRead : Phrase → List Char → Prop
  | value v, t => ∀ n r, t.length ≤ n + 1 → EndsNumber r →
      readValue (n + 1) (t ++ r) = some (v, r)
  | element v, t => ∀ n r, t.length ≤ n → EndsElement r →
      padded (readValue n) (t ++ r) = some (v, r)
  | member name v, t => ∀ n r, t.length ≤ n → EndsElement r →
      readMember (readValue n) (t ++ r) = some ((name, v), r)
  | items vs, t => ∀ n r, t.length ≤ n → ReadsAll (padded (readValue n)) ']' vs t r
  | members ms, t => ∀ n r, t.length ≤ n → ReadsAll (readMember (readValue n)) '\x7d' ms t r

theorem exists_toDigits_eq_cons (n : Nat) :
    ∃ c t, Nat.toDigits 10 n = c :: t ∧ c.isDigit = true := by
  obtain ⟨c, t, ht⟩ := List.exists_cons_of_ne_nil (Nat.toDigits_ne_nil (n := n) (b := 10))
  have hmem : c ∈ Nat.toDigits 10 n := ht ▸ List.mem_cons_self
  exact ⟨c, t, ht, Nat.isDigit_of_mem_toDigits (by decide) (by decide) hmem⟩

/-- A value begins with a character other than white space. -/
theorem Spelling.exists_cons {v : Json} {t : List Char} (h : Spelling (.value v) t) :
    ∃ c t', t = c :: t' ∧ isSpace c = false := by
  cases h with
  | number =>
    obtain ⟨c, t, ht, hc⟩ := exists_toDigits_eq_cons _
    exact ⟨c, t, ht, isSpace_of_isDigit hc⟩
  | string hs =>
    obtain ⟨t', -, rfl⟩ := hs
    exact ⟨_, _, rfl, by decide⟩
  | _ => exact ⟨_, _, rfl, by decide⟩

theorem readValue_number {n : Nat} {c : Char} (hc : c.isDigit = true) (s : List Char) :
    readValue (n + 1) (c :: s) = (decimal? ((c :: s).takeWhile Char.isDigit)).map fun m =>
      (.number m, (c :: s).dropWhile Char.isDigit) := by
  rw [readValue]
  all_goals
    intro s he
    cases he
    cases hc

theorem bracket_append (opening close : Char) (t r : List Char) :
    opening :: (t ++ [close]) ++ r = opening :: (t ++ close :: r) := by
  rw [List.cons_append, List.append_assoc, List.singleton_append]

/-- **Whatever the grammar allows is read.** -/
theorem Spelling.isRead {p : Phrase} {t : List Char} (h : Spelling p t) : p.IsRead t := by
  -- a text is longer than any text inside it, so its length bounds how deep its values are nested
  induction h with
  | yes => exact fun n r _ _ => rfl
  | no => exact fun n r _ _ => rfl
  | @number m =>
    intro n r _ hr
    have hdigits : ∀ c ∈ Nat.toDigits 10 m, c.isDigit = true := fun c hc =>
      Nat.isDigit_of_mem_toDigits (by decide) (by decide) hc
    obtain ⟨htake, hdrop⟩ := takeWhile_dropWhile_append hdigits hr
    obtain ⟨c, t, ht, hc⟩ := exists_toDigits_eq_cons m
    have hread := readValue_number (n := n) hc (t ++ r)
    rw [← List.cons_append, ← ht, htake, hdrop, decimal?_toDigits] at hread
    exact hread
  | string hs =>
    intro n r _ _
    have hread := hs.readString_eq r
    obtain ⟨t', -, rfl⟩ := hs
    rw [List.cons_append] at hread ⊢
    rw [readValue, hread, Option.map_some]
  | emptyArray hb =>
    intro n r _ _
    have hclosed : readValue n (']' :: r) = none := by
      cases n with
      | zero => rfl
      | succ n => exact congrArg (Option.map _) decimal?_nil
    rw [bracket_append, readValue,
      enclosed_nil hb (by decide) (padded_eq_none hb (by decide) hclosed), Option.map_some]
  | array _ ih =>
    intro n r hn _
    rw [List.length_cons, List.length_append, List.length_singleton] at hn
    rw [bracket_append, readValue, enclosed_of_readsAll (ih n r (by omega)), Option.map_some]
  | @emptyObject b hb =>
    intro n r _ _
    have hclosed : readMember (readValue n) (b ++ '\x7d' :: r) = none := by
      rw [readMember, padded_eq_none hb (by decide) rfl]
      rfl
    rw [bracket_append, readValue, enclosed_nil hb (by decide) hclosed, Option.map_some]
  | object _ ih =>
    intro n r hn _
    rw [List.length_cons, List.length_append, List.length_singleton] at hn
    rw [bracket_append, readValue, enclosed_of_readsAll (ih n r (by omega)), Option.map_some]
  | element hb hv hb' ih =>
    intro n r hn hr
    obtain ⟨c, t', rfl, hc⟩ := hv.exists_cons
    rw [List.length_append, List.length_append, List.length_cons] at hn
    obtain ⟨n, rfl⟩ : ∃ m, n = m + 1 := ⟨n - 1, by omega⟩
    have hread := ih n _ (by rw [List.length_cons]; omega) (endsNumber_append hb' hr)
    exact padded_eq hb ⟨c, t', rfl, hc⟩ hread hb' fun c hc => (hr c hc).2
  | @member name v b t b' t' hb hname hb' _ ih =>
    intro n r hn hr
    rw [List.length_append, List.length_cons] at hn
    have hstring : padded readString (b ++ t ++ b' ++ ':' :: (t' ++ r)) =
        some (name, ':' :: (t' ++ r)) := by
      refine padded_eq hb ?_ (hname.readString_eq _) hb' ?_
      · obtain ⟨u, -, rfl⟩ := hname
        exact ⟨_, _, rfl, by decide⟩
      · rintro c ⟨⟩
        decide
    have hread := ih n r (by omega) hr
    rw [List.append_assoc, List.cons_append, readMember, hstring]
    simp only [Option.bind_eq_bind, Option.bind_some, hread]
    rfl
  | item _ ih =>
    intro n r hn
    exact readsAll_last (ih n _ hn (endsElement_cons rfl rfl r))
  | items _ _ ihv ihvs =>
    intro n r hn
    rw [List.length_append, List.length_cons] at hn
    exact readsAll_cons (by decide) (ihv n _ (by omega) (endsElement_cons rfl rfl _))
      (ihvs n r (by omega))
  | lastMember _ ih =>
    intro n r hn
    exact readsAll_last (ih n _ hn (endsElement_cons rfl rfl r))
  | members _ _ ihm ihms =>
    intro n r hn
    rw [List.length_append, List.length_cons] at hn
    exact readsAll_cons (by decide) (ihm n _ (by omega) (endsElement_cons rfl rfl _))
      (ihms n r (by omega))

/-- The value of a text is read. -/
theorem IsText.read?_eq {v : Json} {s : String} (h : IsText v s) : read? s = some v := by
  have hlength : s.toList.length ≤ s.length := Nat.le_of_eq String.length_toList
  have hread := Spelling.isRead h s.length [] hlength nofun
  rw [List.append_nil] at hread
  rw [read?, hread]

/-- **A text denotes one value at most.** -/
theorem IsText.unique {v w : Json} {s : String} (hv : IsText v s) (hw : IsText w s) : v = w := by
  have hread := hv.read?_eq
  rw [hw.read?_eq] at hread
  exact (Option.some.inj hread).symm

example : read? "[ true , \"\\u0041\\ud83d\\uDE00\\n\" ]" =
    some (.array [.bool true, .string "A😀\n"]) := by rfl

/-! ## The compact text -/

theorem hexDigit?_digitChar : ∀ n < 16, hexDigit? (Nat.digitChar n) = some n := by decide

/-- A character is spelled as it is escaped. -/
theorem charSpelling_escapeChar (c : Char) : CharSpelling c (escapeChar c) := by
  unfold escapeChar
  split
  · rename_i h
    refine .letter ?_
    rcases h with rfl | rfl <;> rfl
  split
  · rename_i h; subst h; exact .letter rfl
  split
  · rename_i h; subst h; exact .letter rfl
  split
  · rename_i h; subst h; exact .letter rfl
  split
  · rename_i h; subst h; exact .letter rfl
  split
  · rename_i h; subst h; exact .letter rfl
  split
  · rename_i hc
    refine .unit ?_
    have hhigh : hexDigit? (Nat.digitChar (c.toNat / 16)) = some (c.toNat / 16) :=
      hexDigit?_digitChar _ (by omega)
    have hlow : hexDigit? (Nat.digitChar (c.toNat % 16)) = some (c.toNat % 16) :=
      hexDigit?_digitChar _ (by omega)
    have hzero : hexDigit? '0' = some 0 := by decide
    have hnumber : fourDigits? '0' '0' (Nat.digitChar (c.toNat / 16))
        (Nat.digitChar (c.toNat % 16)) = some c.toNat := by
      simp only [fourDigits?, hzero, hhigh, hlow, Option.bind_eq_bind, Option.bind_some]
      exact congrArg some (by omega)
    rw [codeUnit?, hnumber, Option.map_some]
  · rename_i hquote _ _ _ _ _ hc
    rw [not_or] at hquote
    exact .plain (Nat.le_of_not_lt hc) hquote.1 hquote.2

theorem stringSpelling_renderString (s : String) : StringSpelling s (renderString s).toList := by
  have hchars : ∀ l : List Char, CharsSpelling l (l.flatMap escapeChar) := by
    intro l
    induction l with
    | nil => exact .nil
    | cons c l ih => exact .cons (charSpelling_escapeChar c) ih
  refine ⟨_, hchars s.toList, ?_⟩
  rw [renderString, String.toList_ofList]
  rfl

theorem Spelling.toElement {v : Json} {t : List Char} (h : Spelling (.value v) t) :
    Spelling (.element v) t := by
  have helement : Spelling (.element v) ([] ++ t ++ []) := .element nofun h nofun
  rwa [List.nil_append, List.append_nil] at helement

theorem spelling_member {name : String} {v : Json} (h : Spelling (.value v) v.render.toList) :
    Spelling (.member name v) (renderString name ++ ":" ++ v.render).toList := by
  have hmember : Spelling (.member name v)
      ([] ++ (renderString name).toList ++ [] ++ ':' :: v.render.toList) :=
    .member nofun (stringSpelling_renderString name) nofun h.toElement
  rw [List.nil_append, List.append_nil] at hmember
  rw [String.toList_append, String.toList_append, List.append_assoc]
  exact hmember

theorem spelling_emptyArray : Spelling (.value (.array [])) ['[', ']'] :=
  .emptyArray (b := []) nofun

theorem spelling_emptyObject : Spelling (.value (.object [])) ['\x7b', '\x7d'] :=
  .emptyObject (b := []) nofun

theorem toList_render_array (vs : List Json) : (render (array vs)).toList =
    '[' :: ([','].intercalate ((renderItems vs).map String.toList) ++ [']']) := by
  rw [render, String.toList_append, String.toList_append, String.toList_intercalate]
  rfl

theorem toList_render_object (ms : List (String × Json)) : (render (object ms)).toList =
    '\x7b' :: ([','].intercalate ((renderMembers ms).map String.toList) ++ ['\x7d']) := by
  rw [render, String.toList_append, String.toList_append, String.toList_intercalate]
  rfl

mutual

/-- The compact text of a value spells it. -/
theorem spelling_render : (v : Json) → Spelling (.value v) v.render.toList
  | bool true => .yes
  | bool false => .no
  | number n => by
    rw [render, toList_toString]
    exact .number
  | string s => .string (stringSpelling_renderString s)
  | array vs => by
    rw [toList_render_array]
    by_cases hvs : vs = []
    · subst hvs
      exact spelling_emptyArray
    · exact .array (spelling_renderItems vs hvs)
  | object ms => by
    rw [toList_render_object]
    by_cases hms : ms = []
    · subst hms
      exact spelling_emptyObject
    · exact .object (spelling_renderMembers ms hms)

theorem spelling_renderItems : (vs : List Json) → vs ≠ [] →
    Spelling (.items vs) ([','].intercalate ((renderItems vs).map String.toList))
  | [], hvs => absurd rfl hvs
  | v :: vs, _ => by
    have hv : Spelling (.element v) v.render.toList := (spelling_render v).toElement
    cases vs with
    | nil =>
      rw [renderItems, renderItems, List.map_singleton, List.intercalate_singleton]
      exact .item hv
    | cons w vs =>
      have hvs := spelling_renderItems (w :: vs) (List.cons_ne_nil w vs)
      rw [renderItems, List.map_cons] at hvs ⊢
      rw [renderItems, List.map_cons, List.intercalate_cons_cons, List.append_assoc]
      exact .items hv hvs

theorem spelling_renderMembers : (ms : List (String × Json)) → ms ≠ [] →
    Spelling (.members ms) ([','].intercalate ((renderMembers ms).map String.toList))
  | [], hms => absurd rfl hms
  | (name, v) :: ms, _ => by
    have hm : Spelling (.member name v) (renderString name ++ ":" ++ v.render).toList :=
      spelling_member (spelling_render v)
    cases ms with
    | nil =>
      rw [renderMembers, renderMembers, List.map_singleton, List.intercalate_singleton]
      exact .lastMember hm
    | cons m ms =>
      have hms := spelling_renderMembers (m :: ms) (List.cons_ne_nil m ms)
      rw [renderMembers, List.map_cons] at hms ⊢
      rw [renderMembers, List.map_cons, List.intercalate_cons_cons, List.append_assoc]
      exact .members hm hms

end

theorem isText_render (v : Json) : IsText v v.render := (spelling_render v).toElement

/-- **The compact text of a value denotes it and nothing else.** -/
theorem isText_render_iff {v w : Json} : IsText w v.render ↔ w = v := by
  refine ⟨fun h => h.unique (isText_render v), ?_⟩
  rintro rfl
  exact isText_render w

end Json

end TopDown
