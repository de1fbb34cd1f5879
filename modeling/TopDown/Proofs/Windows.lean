import TopDown.Proofs.EndMarks
import TopDown.Proofs.LeftRecursion
import TopDown.Proofs.Recognition

/-!
# The window on the input

A nonterminal is expanded by what the table gives for the next `k` terminals, the window behind a
cursor that counts the terminals read. The cursor never passes the end of the input, for a terminal
is read only where one is left. If the grammar does not declare the end mark then the marks at the
bottom of the stack are the only ones on it. As long as there is a nonterminal above them, none of
the marks behind the text can have been read, so the whole window is there.

* `Parser.Visits`: the rounds of a derivation, each with its cursor;
* `Visits.unread_eq`: what is unread lies behind the cursor;
* `Parser.HoldsPadding`: all end marks are still there, with a lemma for each kind of move, and
  `Visits.holdsPadding` for the rounds with a nonterminal on the stack;
* `Parser.expanded_mem_log_iff`: the expansions in the log are made in these rounds;
* **`Parser.derive_windows_inside`**.
-/

namespace TopDown

namespace Parser

/-- The rounds that the machine comes to on an input, with the number of terminals that it has read
by then and what is being expanded. -/
inductive Visits (P : Parser) (input : Word) : (cursor : Nat) → Expanded → Configuration → Prop
  | start : Visits P input 0 ∅ (P.initial input)
  | matched {n : Nat} {e e' : Expanded} {c d : Configuration} :
      Visits P input n e c → guard e c.stack = .ok e' → P.table.move c = .matched d →
      Visits P input (n + 1) e' d
  | expanded {n : Nat} {e e' : Expanded} {c d : Configuration} {a : Nonterminal} {w : Word}
      {p : Production} :
      Visits P input n e c → guard e c.stack = .ok e' → P.table.move c = .expanded a w p d →
      Visits P input n e' d

variable {P : Parser} {input word : Word} {n : Nat} {e : Expanded} {c : Configuration}
  {a : Nonterminal}

/-! ## The cursor -/

/-- **What is unread is the input behind the cursor**, which is inside the input or at its end. -/
theorem Visits.unread_eq (h : P.Visits input n e c) :
    n ≤ input.length ∧ c.unread = input.drop n := by
  induction h with
  | start => exact ⟨Nat.zero_le _, rfl⟩
  | @matched n e e' c d _ _ hmove ih =>
    obtain ⟨hle, hunread⟩ := ih
    obtain ⟨x, -, hx⟩ := Table.move_eq_matched hmove
    have hcons : input.drop n = x :: d.unread := hunread.symm.trans hx
    have hlt : n < input.length := by
      by_contra hge
      rw [List.drop_eq_nil_of_le (Nat.le_of_not_lt hge)] at hcons
      cases hcons
    refine ⟨hlt, ?_⟩
    rw [← List.tail_drop, hcons, List.tail_cons]
  | expanded _ _ hmove ih =>
    obtain ⟨_, -, -, -, rfl⟩ := Table.move_eq_expanded hmove
    exact ih

/-- The cursor is the position that the log tells. -/
theorem Visits.position_eq (h : P.Visits input n e c) : c.position input = n := by
  obtain ⟨hle, hunread⟩ := h.unread_eq
  rw [Configuration.position, hunread, List.length_drop]
  omega

/-- The window is the part of the input between the cursor and `k` terminals further, or the end. -/
theorem Visits.window_eq (h : P.Visits input n e c) :
    c.unread.take P.k = input.extract n (min (n + P.k) input.length) := by
  obtain ⟨hle, hunread⟩ := h.unread_eq
  have hlength : (input.drop n).length = input.length - n := List.length_drop
  have hstop : min (n + P.k) input.length - n = min P.k (input.drop n).length := by omega
  rw [hunread, List.extract_eq_take_drop, hstop, List.take_eq_take_min]

/-! ## The end marks -/

/-- None of the end marks has been read: they are at the bottom of the stack, where no other mark is
above them, and behind the terminals of the text that are left. -/
def HoldsPadding (P : Parser) (word : Word) (cursor : Nat) (c : Configuration) : Prop :=
  ∃ (above : Form) (v : Word), .terminal .endMark ∉ above ∧
    c.stack = above ++ Word.toForm P.padding ∧ c.unread = v ++ P.padding ∧
    cursor + v.length = word.length

theorem holdsPadding_initial : P.HoldsPadding word 0 (P.initial (word ++ P.padding)) :=
  ⟨[.nonterminal P.grammar.start], word, by simp, rfl, rfl, Nat.zero_add _⟩

/-- With a nonterminal on the stack, the top is not one of the marks at the bottom. -/
theorem HoldsPadding.exists_below {y : Symbol} (h : P.HoldsPadding word n c)
    (hstack : c.stack = y :: stack) (ha : .nonterminal a ∈ c.stack) :
    ∃ (above : Form) (v : Word), .terminal .endMark ∉ y :: above ∧
      stack = above ++ Word.toForm P.padding ∧ c.unread = v ++ P.padding ∧
      n + v.length = word.length := by
  obtain ⟨above, v, habove, heq, hv, hlength⟩ := h
  cases above with
  | nil =>
    rw [heq, List.nil_append] at ha
    exact absurd ha (Word.nonterminal_not_mem_toForm a _)
  | cons z above =>
    obtain ⟨rfl, hbelow⟩ := List.cons.inj (hstack.symm.trans heq)
    exact ⟨above, v, habove, hbelow, hv, hlength⟩

/-- A terminal that is read above a nonterminal is a letter of the text. -/
theorem HoldsPadding.matched {d : Configuration} (h : P.HoldsPadding word n c)
    (hmove : P.table.move c = .matched d) (ha : .nonterminal a ∈ d.stack) :
    P.HoldsPadding word (n + 1) d := by
  obtain ⟨x, hstack, hunread⟩ := Table.move_eq_matched hmove
  obtain ⟨above, v, habove, hd, hv, hlength⟩ :=
    h.exists_below hstack (hstack ▸ List.mem_cons_of_mem _ ha)
  rw [hunread] at hv
  cases v with
  | nil =>
    -- a mark behind the text would be read against a mark above the marks
    rw [List.nil_append] at hv
    have hx : x = .endMark := List.eq_of_mem_replicate (hv ▸ List.mem_cons_self)
    exact absurd (hx ▸ List.mem_cons_self) habove
  | cons z v =>
    rw [List.length_cons] at hlength
    exact ⟨above, v, fun hmem => habove (List.mem_cons_of_mem _ hmem), hd, (List.cons.inj hv).2,
      by omega⟩

/-- An expansion by a right side without end marks leaves all marks where they are. -/
theorem HoldsPadding.expanded {d : Configuration} {w : Word} {p : Production}
    (h : P.HoldsPadding word n c) (hmove : P.table.move c = .expanded a w p d)
    (hright : .terminal .endMark ∉ p.right) : P.HoldsPadding word n d := by
  obtain ⟨stack, hstack, -, -, rfl⟩ := Table.move_eq_expanded hmove
  obtain ⟨above, v, habove, rfl, hv, hlength⟩ :=
    h.exists_below hstack (hstack ▸ List.mem_cons_self)
  refine ⟨p.right ++ above, v, fun hmem => ?_, (List.append_assoc _ _ _).symm, hv, hlength⟩
  rcases List.mem_append.1 hmem with hp | hbelow
  · exact hright hp
  · exact habove (List.mem_cons_of_mem _ hbelow)

/-- **Below a nonterminal all end marks are still there**, on the stack and behind the text. -/
theorem Visits.holdsPadding
    (hright : ∀ a w p, P.table.get? a w = some p → .terminal .endMark ∉ p.right)
    (h : P.Visits (word ++ P.padding) n e c) (ha : .nonterminal a ∈ c.stack) :
    P.HoldsPadding word n c := by
  induction h generalizing a with
  | start => exact holdsPadding_initial
  | matched _ _ hmove ih =>
    obtain ⟨x, hstack, -⟩ := Table.move_eq_matched hmove
    have hbelow : Symbol.nonterminal a ∈ _ := hstack ▸ List.mem_cons_of_mem _ ha
    exact (ih hbelow).matched hmove ha
  | @expanded n e e' c d b w p _ _ hmove ih =>
    obtain ⟨stack, hstack, -, hp, -⟩ := Table.move_eq_expanded hmove
    have htop : Symbol.nonterminal b ∈ c.stack := hstack ▸ List.mem_cons_self
    exact (ih htop).expanded hmove (hright b w p hp)

/-- Where all end marks are still there, the window is whole. -/
theorem HoldsPadding.window_length (h : P.HoldsPadding word n c) :
    n ≤ word.length ∧ (c.unread.take P.k).length = P.k := by
  obtain ⟨above, v, -, -, hv, hlength⟩ := h
  have hpadding : P.padding.length = P.k := List.length_replicate
  refine ⟨by omega, ?_⟩
  rw [hv, List.length_take, List.length_append, hpadding]
  omega

/-! ## The expansions in the log -/

theorem derive_of_readInput {text : String} (h : P.readInput text.toList = .ok word) :
    P.derive text = P.table.run (word ++ P.padding) ∅ (P.initial (word ++ P.padding)) := by
  rw [derive, h]

/-- What is logged from a round on ends the log. -/
theorem Visits.log_suffix (h : P.Visits input n e c) :
    (P.table.run input e c).log <:+ (P.table.run input ∅ (P.initial input)).log := by
  induction h with
  | start => exact List.suffix_rfl
  | matched _ hguard hmove ih =>
    rw [Table.run_of_matched hguard hmove] at ih
    exact ih
  | expanded _ hguard hmove ih =>
    rw [Table.run_of_expanded hguard hmove] at ih
    exact (List.suffix_cons _ _).trans ih

/-- An expansion that is logged from a round on is made in that round or in a later one. -/
theorem Visits.exists_of_expanded {w : Word} {p : Production} (h : P.Visits input n e c)
    (hlog : .expanded a w p ∈ (P.table.run input e c).log) :
    ∃ n e e' c d, P.Visits input n e c ∧ guard e c.stack = .ok e' ∧
      P.table.move c = .expanded a w p d := by
  fun_induction Table.run P.table input e c generalizing n with
  | case1 e c b hg => cases List.mem_singleton.1 hlog
  | case2 e c e' hg hm => cases hlog
  | case3 e c e' hg d hm ih => exact ih (h.matched hg hm) hlog
  | case4 e c e' hg b v q d hm ih =>
    rcases List.mem_cons.1 hlog with hfirst | hlater
    · cases hfirst
      exact ⟨n, e, e', c, d, h, hg, hm⟩
    · exact ih (h.expanded hg hm) hlater
  | case5 e c e' hg x hm => cases List.mem_singleton.1 hlog
  | case6 e c e' hg b v hm => cases List.mem_singleton.1 hlog

/-- **The expansions in the log are those of the rounds.** -/
theorem expanded_mem_log_iff {w : Word} {p : Production} :
    .expanded a w p ∈ (P.table.run input ∅ (P.initial input)).log ↔
      ∃ n e e' c d, P.Visits input n e c ∧ guard e c.stack = .ok e' ∧
        P.table.move c = .expanded a w p d := by
  constructor
  · intro hlog
    exact Visits.start.exists_of_expanded hlog
  · rintro ⟨n, e, e', c, d, h, hguard, hmove⟩
    refine h.log_suffix.mem ?_
    rw [Table.run_of_expanded hguard hmove]
    exact List.mem_cons_self

/-- **No derivation reads past its input.** In every round the cursor is inside the input or at its
end, it is the position that the log tells, and the window is the part of the input that begins
there. If the grammar does not declare the end mark then the cursor is inside the text or at its end
wherever a nonterminal is on top, and the window has `k` terminals; so no entry of the table with a
shorter word is ever used. -/
theorem derive_windows_inside {text : String} (hread : P.readInput text.toList = .ok word) :
    (∀ n e c, P.Visits (word ++ P.padding) n e c →
      n ≤ (word ++ P.padding).length ∧ c.position (word ++ P.padding) = n ∧
        c.unread.take P.k = (word ++ P.padding).extract n
          (min (n + P.k) (word ++ P.padding).length)) ∧
    ∀ g bound, (Grammar.toParser g bound).value = .ok P → .endMark ∉ g.terminals →
      (∀ n e a stack unread, P.Visits (word ++ P.padding) n e ⟨.nonterminal a :: stack, unread⟩ →
        n ≤ word.length ∧ (unread.take P.k).length = P.k) ∧
      ∀ a w p, .expanded a w p ∈ (P.derive text).log → w.length = P.k := by
  refine ⟨fun n e c h => ⟨h.unread_eq.1, h.position_eq, h.window_eq⟩, ?_⟩
  intro g bound hparser hend
  have hright : ∀ a w p, P.table.get? a w = some p → .terminal .endMark ∉ p.right := by
    intro a w p hp
    obtain ⟨k, -, rfl⟩ := Grammar.toParser_eq_ok hparser
    obtain ⟨hmem, -⟩ := Grammar.get?_tabulate_eq_some hp
    exact Grammar.endMark_not_mem_right hend (g.mem_productionsOf.1 hmem).1
  refine ⟨fun n e a stack unread h => ?_, fun a w p hlog => ?_⟩
  · exact (h.holdsPadding hright List.mem_cons_self).window_length
  · rw [derive_of_readInput hread] at hlog
    obtain ⟨n, e, e', c, d, hvisits, -, hmove⟩ := expanded_mem_log_iff.1 hlog
    obtain ⟨stack, hstack, rfl, -, -⟩ := Table.move_eq_expanded hmove
    have ha : Symbol.nonterminal a ∈ c.stack := hstack ▸ List.mem_cons_self
    exact (hvisits.holdsPadding hright ha).window_length.2

open Sample in
theorem derive_windows_inside_nested :
    let P : Parser := ⟨nested, (nested.tabulate 1).value⟩
    let p : Production := ⟨S, [.terminal Sample.a, .nonterminal S, .terminal b]⟩
    let inside : Configuration :=
      ⟨[.nonterminal S, .terminal b, .terminal .endMark], [Sample.c, b, .endMark]⟩
    (P.readInput "acb".toList = .ok [Sample.a, Sample.c, b] ∧
      (nested.toParser (some 4)).value = .ok P ∧ .endMark ∉ nested.terminals) ∧
    (∃ e, P.Visits [Sample.a, Sample.c, b, .endMark] 1 e inside ∧
      inside.position [Sample.a, Sample.c, b, .endMark] = 1 ∧
      (inside.unread.take P.k).length = P.k) ∧
    (.expanded S [Sample.a] p ∈ (P.derive "acb").log ∧ [Sample.a].length = P.k) := by
  intro P p inside
  have hread : P.readInput "acb".toList = .ok [Sample.a, Sample.c, b] := by rfl
  have hparser := Grammar.toParser_of_findLookahead
    (show (nested.findLookahead (some 4)).value = .ok 1 by decide +kernel)
  have hend : .endMark ∉ nested.terminals := by decide
  have hvisits : P.Visits [Sample.a, Sample.c, b, .endMark] 1 ∅ inside :=
    .matched (.expanded .start rfl rfl) rfl rfl
  have hlog : .expanded S [Sample.a] p ∈ (P.derive "acb").log := by
    rw [derive_of_readInput hread]
    exact expanded_mem_log_iff.2 ⟨0, ∅, _, P.initial _, _, .start, rfl, rfl⟩
  obtain ⟨hcursor, hwindow⟩ := derive_windows_inside hread
  obtain ⟨-, hposition, -⟩ := hcursor 1 ∅ inside hvisits
  obtain ⟨htop, hexpanded⟩ := hwindow nested (some 4) hparser hend
  exact ⟨⟨hread, hparser, hend⟩, ⟨∅, hvisits, hposition, (htop 1 ∅ S _ _ hvisits).2⟩, hlog,
    hexpanded S _ p hlog⟩

end Parser

end TopDown
