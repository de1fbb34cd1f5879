import TopDown.Proofs.Padding
import TopDown.Proofs.ReadBack
import TopDown.Proofs.SoundLookahead

/-!
# End marks only pad

A grammar that does not declare the end mark, such as one that is read from a text, has it in no
production. The end marks of its lookahead words then are the marks behind the input: nothing but
marks follows a mark, and a word that reaches the marks is as long as the lookahead, however often
it was put behind a right side and cut again.

* `Word.PaddedTo`: letters, and marks up to the length of the lookahead; `Word.PaddedTo.take_append`:
  letters in front, and what is beyond that length cut off, leave it so;
* `endMark_not_mem_of_mem_first`: the words that begin a form of letters have no marks;
* `paddedTo_of_mem_first`, and from it `follow_paddedTo` and `lookAhead_paddedTo`;
* **`endMark_only_pads`**.
-/

namespace TopDown

namespace Word

/-- The word has at most `k` terminals, and its end marks fill it up to that length from behind. -/
structure PaddedTo (k : Nat) (u : Word) : Prop where
  length_le : u.length ≤ k
  /-- A word with an end mark is filled up. -/
  length_eq : .endMark ∈ u → u.length = k
  /-- Behind an end mark stand end marks only. -/
  eq_endMark : ∀ x y, u = x ++ .endMark :: y → ∀ t ∈ y, t = .endMark

variable {k : Nat} {s u : Word}

theorem paddedTo_of_not_mem (h : .endMark ∉ u) (hle : u.length ≤ k) : u.PaddedTo k where
  length_le := hle
  length_eq := fun hmem => absurd hmem h
  eq_endMark := fun x _ hu => absurd (hu ▸ List.mem_append_right x List.mem_cons_self) h

theorem paddedTo_replicate (k : Nat) : Word.PaddedTo k (List.replicate k .endMark) where
  length_le := Nat.le_of_eq List.length_replicate
  length_eq := fun _ => List.length_replicate
  eq_endMark := fun x y hu t ht => by
    have hmem : t ∈ List.replicate k Terminal.endMark := by
      rw [hu]
      exact List.mem_append_right x (List.mem_cons_of_mem _ ht)
    exact List.eq_of_mem_replicate hmem

/-- **Letters in front of a padded word push its marks over the end**, and nothing else. -/
theorem PaddedTo.take_append (h : u.PaddedTo k) (hs : .endMark ∉ s) :
    Word.PaddedTo k ((s ++ u).take k) where
  length_le := List.length_take_le _ _
  length_eq := fun hmem => by
    have hu : .endMark ∈ u := (List.mem_append.1 (List.mem_of_mem_take hmem)).resolve_left hs
    have hlength := h.length_eq hu
    rw [List.length_take, List.length_append]
    omega
  eq_endMark := fun x y hxy t ht => by
    have hsplit : s ++ u = x ++ .endMark :: (y ++ (s ++ u).drop k) := by
      rw [← List.cons_append, ← List.append_assoc, ← hxy, List.take_append_drop]
    have ht' : t ∈ y ++ (s ++ u).drop k := List.mem_append_left _ ht
    rcases List.append_eq_append_iff.1 hsplit with ⟨c, -, hu⟩ | ⟨c, hsc, hu⟩
    · exact h.eq_endMark c _ hu t ht'
    · cases c with
      | nil => exact h.eq_endMark [] _ hu.symm t ht'
      | cons r c =>
        -- the mark would stand among the letters in front
        obtain ⟨rfl, -⟩ := List.cons.inj hu
        exact absurd (hsc ▸ List.mem_append_right x List.mem_cons_self) hs

end Word

namespace Grammar

variable {g : Grammar} {k : Nat} {a : Nonterminal} {p : Production} {u : Word} {w : Form}

/-! ## Grammars without end marks -/

/-- A production holds no end mark that is not declared. -/
theorem endMark_not_mem_right (h : .endMark ∉ g.terminals) (hp : p ∈ g.productions) :
    .terminal .endMark ∉ p.right := fun hmem =>
  h ((g.declared p hp).2 _ hmem)

/-- A text declares no end mark. -/
theorem endMark_not_mem_of_ofText {text : String} (h : ofText text = .ok g) :
    .endMark ∉ g.terminals := by
  obtain ⟨ps, hlines, hcollects⟩ := ofText_eq_ok_iff.1 h
  intro hmem
  obtain ⟨p, hp, hmentions⟩ := (hcollects.terminals .endMark).1 hmem
  rcases hmentions with hleft | hright
  · cases hleft
  · exact endMark_not_mem_of_linesWrite hlines p hp hright

/-! ## Lookahead words -/

/-- A word that begins a form of letters in front of a word is made of letters, or goes on with that
word behind letters. -/
theorem endMark_not_mem_or_eq_take (h : .endMark ∉ g.terminals) (hw : .terminal .endMark ∉ w)
    {f : Word} (hu : u ∈ g.first k (w ++ Word.toForm f)) :
    .endMark ∉ u ∨ ∃ s : Word, .endMark ∉ s ∧ u = (s ++ f).take k := by
  rw [first_eq_firstWithin] at hu
  rcases mem_firstWithin_append hu with ⟨-, hfrom⟩ | ⟨s, -, hfrom, hu⟩
  · refine .inl fun hmem => ?_
    rcases hfrom _ hmem with hform | ⟨p, hp, hright⟩
    · exact hw hform
    · exact endMark_not_mem_right h hp hright
  · exact .inr ⟨s, fun hmem => hw (hfrom _ hmem), hu⟩

/-- A form of letters begins with letters. -/
theorem endMark_not_mem_of_mem_first (h : .endMark ∉ g.terminals) (hw : .terminal .endMark ∉ w)
    (hu : u ∈ g.first k w) : .endMark ∉ u := by
  rw [← List.append_nil w, ← Word.toForm_nil] at hu
  rcases endMark_not_mem_or_eq_take h hw hu with hnot | ⟨s, hs, rfl⟩
  · exact hnot
  · rw [List.append_nil]
    exact fun hmem => hs (List.mem_of_mem_take hmem)

/-- **What begins a form of letters in front of a padded word is padded.** -/
theorem paddedTo_of_mem_first (h : .endMark ∉ g.terminals) (hw : .terminal .endMark ∉ w) {f : Word}
    (hf : f.PaddedTo k) (hu : u ∈ g.first k (w ++ Word.toForm f)) : u.PaddedTo k := by
  rcases endMark_not_mem_or_eq_take h hw hu with hnot | ⟨s, hs, rfl⟩
  · exact Word.paddedTo_of_not_mem hnot (length_le_of_mem_first hu)
  · exact hf.take_append hs

theorem follow_paddedTo (h : .endMark ∉ g.terminals) (hu : u ∈ g.follow k a) : u.PaddedTo k := by
  rw [follow_eq_followWithin] at hu
  refine followWithin_induction (motive := fun _ u => u.PaddedTo k) (Word.paddedTo_replicate k)
    (fun p hp a f v _ hf hv => ?_) hu
  have hafter : Symbol.terminal .endMark ∉ p.after (.nonterminal a) := fun hmem =>
    endMark_not_mem_right h hp ((p.after_suffix _).subset hmem)
  exact paddedTo_of_mem_first h hafter hf hv

theorem lookAhead_paddedTo (h : .endMark ∉ g.terminals) (hp : p ∈ g.productions)
    (hu : u ∈ g.lookAhead k p) : u.PaddedTo k := by
  by_cases hk : k = 0
  · rw [lookAhead, if_pos hk, OrderedSet.mem_singleton] at hu
    exact hu ▸ Word.paddedTo_of_not_mem List.not_mem_nil (Nat.zero_le k)
  · rw [lookAhead, if_neg hk, mem_firstBefore] at hu
    obtain ⟨f, hf, hu⟩ := hu
    exact paddedTo_of_mem_first h (endMark_not_mem_right h hp) (follow_paddedTo h hf) hu

/-- **End marks only pad.** No grammar that is read from a text declares the end mark. Where it is
not declared, the words that begin a form of letters have no end marks, and those that follow a
nonterminal or select a production are padded: they have at most `k` terminals, behind an end mark
stand end marks only, and with an end mark they have exactly `k`. -/
theorem endMark_only_pads :
    (∀ text g, ofText text = .ok g → .endMark ∉ g.terminals) ∧
    ∀ g : Grammar, .endMark ∉ g.terminals → ∀ k,
      (∀ w : Form, .terminal .endMark ∉ w → ∀ u ∈ g.first k w, .endMark ∉ u) ∧
      (∀ a, ∀ u ∈ g.follow k a, u.PaddedTo k) ∧
      ∀ p ∈ g.productions, ∀ u ∈ g.lookAhead k p, u.PaddedTo k := by
  refine ⟨fun text g hg => endMark_not_mem_of_ofText hg, fun g h k => ⟨?_, ?_, ?_⟩⟩
  · intro w hw u hu
    exact endMark_not_mem_of_mem_first h hw hu
  · intro a u hu
    exact follow_paddedTo h hu
  · intro p hp u hu
    exact lookAhead_paddedTo h hp hu

open Sample in
theorem endMark_only_pads_samples :
    ofText "S -> AbBc\nS -> d\nA -> aA\nA ->\nB -> xB\nB -> y" = .ok lists ∧
      .endMark ∉ lists.terminals ∧
    (Symbol.terminal .endMark ∉ [Symbol.nonterminal A, .terminal b] ∧
      [Sample.a] ∈ lists.first 3 [.nonterminal A, .terminal b] ∧ .endMark ∉ [Sample.a]) ∧
    ([b, x] ∈ lists.follow 2 A ∧ Word.PaddedTo 2 [b, x]) ∧
    ⟨S, [.terminal d]⟩ ∈ lists.productions ∧
      [d, .endMark, .endMark] ∈ lists.lookAhead 3 ⟨S, [.terminal d]⟩ ∧
      Word.PaddedTo 3 [d, .endMark, .endMark] := by
  obtain ⟨htext, hgrammar⟩ := endMark_only_pads
  have hread : ofText "S -> AbBc\nS -> d\nA -> aA\nA ->\nB -> xB\nB -> y" = .ok lists := by rfl
  have hend : .endMark ∉ lists.terminals := htext _ _ hread
  have hform : Symbol.terminal .endMark ∉ [Symbol.nonterminal A, .terminal b] := by decide
  have hfirst : [Sample.a] ∈ lists.first 3 [.nonterminal A, .terminal b] := by decide
  have hfollow : [b, x] ∈ lists.follow 2 A := by decide
  have hp : ⟨S, [.terminal d]⟩ ∈ lists.productions := by decide
  have hlookAhead : [d, .endMark, .endMark] ∈ lists.lookAhead 3 ⟨S, [.terminal d]⟩ := by decide
  obtain ⟨-, hfollowing, -⟩ := hgrammar lists hend 2
  obtain ⟨hbeginning, -, hselecting⟩ := hgrammar lists hend 3
  exact ⟨hread, hend, ⟨hform, hfirst, hbeginning _ hform _ hfirst⟩,
    ⟨hfollow, hfollowing A _ hfollow⟩, hp, hlookAhead, hselecting _ hp _ hlookAhead⟩

end Grammar

end TopDown
