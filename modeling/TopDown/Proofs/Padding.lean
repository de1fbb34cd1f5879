import Mathlib.Tactic.Ring
import TopDown.Proofs.LeastLookahead

/-!
# Padding

On the way to a lookahead word no nonterminal is opened inside itself, neither while words that
begin a form are collected nor while words that follow a nonterminal are. So the word is made of a
bounded number of right sides; whatever stands behind them is the padding at the end of the input.
Two lookahead words that agree beyond the bound agree altogether, and a conflict that is met there
is met at every length.

* `Word.PaddedFrom`, `Word.PaddedFrom.eq_of_take_eq`: padded words that agree in front of the
  padding and one terminal further are equal;
* `mem_firstWithin_append`: a word that begins a form in front of a word is short and made of what
  the form and the right sides hold, or goes on with that word;
* `followWithin_paddedFrom`, `lookAhead_paddedFrom`;
* `Grammar.searchBound`, `exists_common_of_searchBound`;
* **`findLookahead_conclusive`**.
-/

namespace TopDown

namespace Word

/-- Behind its first `d` terminals the word is over, or padded with end marks up to length `k`. -/
def PaddedFrom (d k : Nat) (u : Word) : Prop :=
  u.drop d = [] ∨ u.drop d = List.replicate (k - d) .endMark

variable {d e j k : Nat} {u v : Word}

theorem PaddedFrom.mono (h : u.PaddedFrom d k) (hle : d ≤ e) : u.PaddedFrom e k := by
  have hdrop : u.drop e = (u.drop d).drop (e - d) := by
    rw [List.drop_drop, Nat.add_sub_cancel' hle]
  unfold PaddedFrom
  rw [hdrop]
  rcases h with h | h
  · exact .inl (by rw [h, List.drop_nil])
  · exact .inr (by rw [h, List.drop_replicate]; congr 1; omega)

theorem paddedFrom_of_length_le (h : u.length ≤ d) : u.PaddedFrom d k :=
  .inl (List.drop_eq_nil_of_le h)

theorem paddedFrom_replicate : Word.PaddedFrom d k (List.replicate k .endMark) :=
  .inr List.drop_replicate

/-- At most `m` more terminals in front move the padding by as many. -/
theorem PaddedFrom.take_append {m : Nat} {s : Word} (h : u.PaddedFrom d k) (hs : s.length ≤ m) :
    Word.PaddedFrom (m + d) k ((s ++ u).take k) := by
  have hdrop : (s ++ u).drop (m + d) = u.drop (m + d - s.length) := by
    rw [List.drop_append, List.drop_eq_nil_of_le (by omega), List.nil_append]
  have hmono : u.PaddedFrom (m + d - s.length) k := h.mono (by omega)
  unfold PaddedFrom
  rw [List.drop_take, hdrop]
  rcases hmono with h | h
  · exact .inl (by rw [h, List.take_nil])
  · exact .inr (by rw [h, List.take_replicate]; congr 1; omega)

/-- **Words that are padded from `d` on are equal if they agree up to a length beyond `d`.** -/
theorem PaddedFrom.eq_of_take_eq (hu : u.PaddedFrom d k) (hv : v.PaddedFrom d k) (hd : d < j)
    (h : u.take j = v.take j) : u = v := by
  have htake : u.take d = v.take d := by
    have := congrArg (List.take d) h
    rwa [List.take_take, List.take_take, Nat.min_eq_left (Nat.le_of_lt hd)] at this
  have hbehind : (u.drop d).take (j - d) = (v.drop d).take (j - d) := by
    rw [← List.drop_take, ← List.drop_take, h]
  -- where one of them is over, so is the other: there is one more terminal to compare
  have hover : ∀ x : Word, x.take (j - d) = [] → x = [] := by
    intro x hx
    exact (List.take_eq_nil_iff.1 hx).resolve_left (by omega)
  have hdrop : u.drop d = v.drop d := by
    rcases hu with hu | hu <;> rcases hv with hv | hv
    · rw [hu, hv]
    · rw [hu, List.take_nil] at hbehind
      rw [hu, hover _ hbehind.symm]
    · rw [hv, List.take_nil] at hbehind
      rw [hv, hover _ hbehind]
    · rw [hu, hv]
  rw [← List.take_append_drop d u, ← List.take_append_drop d v, htake, hdrop]

end Word

namespace Grammar

variable {g : Grammar} {opened : Opened} {k : Nat} {a : Nonterminal} {p : Production} {u : Word}

variable (g) in
/-- The length of the longest right side. -/
def width : Nat := (g.productions.map (·.right.length)).foldr max 0

theorem length_right_le_width (h : p ∈ g.productions) : p.right.length ≤ g.width :=
  Production.length_right_le_foldr_max h

/-! ## The words that begin a form -/

/-- **A word that begins a form in front of a word** is made of the form and of a right side for
every nonterminal that could be opened, or goes on with that word behind terminals of the form. -/
theorem mem_firstWithin_append {w : Form} {f : Word}
    (h : u ∈ g.firstWithin opened k (w ++ Word.toForm f)) :
    (u.length ≤ w.length + g.unopened opened * g.width ∧
        ∀ t ∈ u, .terminal t ∈ w ∨ ∃ p ∈ g.productions, .terminal t ∈ p.right) ∨
      ∃ s : Word, s.length ≤ w.length ∧ (∀ t ∈ s, .terminal t ∈ w) ∧ u = (s ++ f).take k := by
  induction opened, k, w using Grammar.firstWithin.induct g generalizing u f with
  | case1 opened w =>
    rw [firstWithin] at h
    exact absurd h (OrderedSet.not_mem_empty u)
  | case2 opened k =>
    rw [List.nil_append, firstWithin_toForm, OrderedSet.mem_singleton] at h
    exact .inr ⟨[], Nat.le_refl _, fun _ hs => absurd hs List.not_mem_nil, h⟩
  | case3 opened k t w ih =>
    rw [List.cons_append, firstWithin, WordSet.mem_concat_singleton] at h
    rw [List.length_cons]
    rcases h with ⟨-, rfl⟩ | ⟨v, hv, rfl⟩
    · refine .inl ⟨?_, fun s hs => .inl ?_⟩
      · rw [List.length_singleton]
        omega
      · exact List.mem_singleton.1 hs ▸ List.mem_cons_self
    · rcases ih hv with ⟨hlen, hmem⟩ | ⟨s, hs, hmem, rfl⟩
      · refine .inl ⟨?_, List.forall_mem_cons.2 ⟨.inl List.mem_cons_self, fun s hs => ?_⟩⟩
        · rw [List.length_append, List.length_singleton]
          omega
        · exact (hmem s hs).imp_left (List.mem_cons_of_mem _)
      · refine .inr ⟨t :: s, Nat.succ_le_succ hs, ?_, rfl⟩
        exact List.forall_mem_cons.2 ⟨List.mem_cons_self, fun s hs =>
          List.mem_cons_of_mem _ (hmem s hs)⟩
  | case4 opened k a w ha =>
    rw [List.cons_append, firstWithin_nonterminal, if_pos ha] at h
    exact absurd h (OrderedSet.not_mem_empty u)
  | case5 opened k a w ha ihRest ihRight =>
    rw [List.cons_append, firstWithin_nonterminal, if_neg ha, WordSet.mem_unionOf] at h
    obtain ⟨p, hp, hu⟩ := h
    rw [List.length_cons]
    split at hu
    · have hle : g.unopened (opened.insert a) * g.width ≤ g.unopened opened * g.width :=
        Nat.mul_le_mul_right _ (g.unopened_insert_le a opened)
      rcases ihRest hu with ⟨hlen, hmem⟩ | ⟨s, hs, hmem, rfl⟩
      · exact .inl ⟨by omega, fun t ht => (hmem t ht).imp_left (List.mem_cons_of_mem _)⟩
      · exact .inr ⟨s, Nat.le_succ_of_le hs, fun t ht => List.mem_cons_of_mem _ (hmem t ht), rfl⟩
    · -- the right side is taken in place of the form, with nothing behind it
      have hlt := unopened_insert_lt (g.mem_nonterminals_of_productionsOf hp) ha
      have hle : (g.unopened (opened.insert a) + 1) * g.width ≤ g.unopened opened * g.width :=
        Nat.mul_le_mul_right _ hlt
      have hmem := (g.mem_productionsOf.1 hp).1
      have hright := length_right_le_width hmem
      rw [Nat.succ_mul] at hle
      rw [← List.append_nil p.right, ← Word.toForm_nil] at hu
      rcases ihRight p hp hu with ⟨hlen, hfrom⟩ | ⟨s, hs, hfrom, rfl⟩
      · exact .inl ⟨by omega, fun t ht => .inr ((hfrom t ht).elim (⟨p, hmem, ·⟩) id)⟩
      · rw [List.append_nil]
        refine .inl ⟨?_, fun t ht => .inr ⟨p, hmem, hfrom t (List.mem_of_mem_take ht)⟩⟩
        rw [List.length_take]
        omega

/-- In front of a padded word, a form no longer than a right side moves the padding by that. -/
theorem paddedFrom_of_mem_first {w : Form} {f : Word} {d : Nat} (hw : w.length ≤ g.width)
    (hd : g.nonterminals.size * g.width ≤ d) (hf : f.PaddedFrom d k)
    (h : u ∈ g.first k (w ++ Word.toForm f)) : u.PaddedFrom (g.width + d) k := by
  rw [first_eq_firstWithin] at h
  rcases mem_firstWithin_append h with ⟨hlen, -⟩ | ⟨s, hs, -, rfl⟩
  · rw [unopened_empty] at hlen
    exact Word.paddedFrom_of_length_le (by omega)
  · exact hf.take_append (Nat.le_trans hs hw)

/-! ## The words that follow a nonterminal, and the lookahead -/

theorem paddedFrom_endOfInput {d : Nat} (h : u ∈ g.endOfInput k a) : u.PaddedFrom d k := by
  unfold endOfInput at h
  split at h
  · rw [OrderedSet.mem_singleton] at h
    exact h ▸ Word.paddedFrom_replicate
  · exact absurd h (OrderedSet.not_mem_empty u)

/-- The words that follow a nonterminal are padded behind a right side for every nonterminal that
could be opened, and once more for every nonterminal. -/
theorem followWithin_paddedFrom (h : u ∈ g.followWithin opened k a) :
    u.PaddedFrom ((g.unopened opened + g.nonterminals.size) * g.width) k := by
  induction opened, a using Grammar.followWithin.induct g generalizing u with
  | case1 opened a ha =>
    rw [followWithin_eq, if_pos ha] at h
    exact paddedFrom_endOfInput h
  | case2 opened a ha ih =>
    rw [followWithin_eq, if_neg ha, OrderedSet.mem_union, WordSet.mem_unionOf] at h
    rcases h with h | ⟨p, hp, hu⟩
    · exact paddedFrom_endOfInput h
    · split at hu
      · exact absurd hu (OrderedSet.not_mem_empty u)
      · rename_i hne
        obtain ⟨f, hf, hu⟩ := mem_firstBefore.1 hu
        have hlt := unopened_insert_lt (mem_nonterminals_of_after hp hne) ha
        have hafter : (p.after (.nonterminal a)).length ≤ g.width :=
          Nat.le_trans (p.length_after_le _) (length_right_le_width hp)
        have hroom : g.nonterminals.size * g.width ≤
            (g.unopened (opened.insert a) + g.nonterminals.size) * g.width :=
          Nat.mul_le_mul_right _ (Nat.le_add_left _ _)
        refine (paddedFrom_of_mem_first hafter hroom (ih p hp hne hf) hu).mono ?_
        have hle : (g.unopened (opened.insert a) + g.nonterminals.size + 1) * g.width ≤
            (g.unopened opened + g.nonterminals.size) * g.width :=
          Nat.mul_le_mul_right _ (by omega)
        rw [Nat.succ_mul] at hle
        omega

theorem lookAhead_paddedFrom (hp : p ∈ g.productions) (hk : 1 ≤ k) (h : u ∈ g.lookAhead k p) :
    u.PaddedFrom ((g.nonterminals.size + g.nonterminals.size + 1) * g.width) k := by
  rw [lookAhead_of_pos p hk, mem_firstBefore] at h
  obtain ⟨f, hf, hu⟩ := h
  rw [follow_eq_followWithin] at hf
  have hfollow := followWithin_paddedFrom hf
  rw [unopened_empty] at hfollow
  have hroom : g.nonterminals.size * g.width ≤
      (g.nonterminals.size + g.nonterminals.size) * g.width :=
    Nat.mul_le_mul_right _ (Nat.le_add_left _ _)
  refine (paddedFrom_of_mem_first (length_right_le_width hp) hroom hfollow hu).mono ?_
  rw [Nat.succ_mul, Nat.add_comm]

/-! ## The search -/

variable (g) in
/-- A length at which the search can be given up: with `n` nonterminals and right sides of at most
`m` symbols it is `(n + 1) * (n + 1) * m + 1`. -/
def searchBound : Nat := (g.nonterminals.size + 1) * (g.nonterminals.size + 1) * g.width + 1

theorem padding_lt_searchBound :
    (g.nonterminals.size + g.nonterminals.size + 1) * g.width < g.searchBound := by
  have hsquare : (g.nonterminals.size + 1) * (g.nonterminals.size + 1) =
      g.nonterminals.size * g.nonterminals.size +
        (g.nonterminals.size + g.nonterminals.size + 1) := by
    ring
  have hle : (g.nonterminals.size + g.nonterminals.size + 1) * g.width ≤
      (g.nonterminals.size + 1) * (g.nonterminals.size + 1) * g.width :=
    Nat.mul_le_mul_right _ (by omega)
  exact Nat.lt_succ_of_le hle

/-- **A lookahead word that two productions share at the bound leaves one at every length.** -/
theorem exists_common_of_searchBound {p q : Production} (hp : p ∈ g.productions)
    (hq : q ∈ g.productions) (hk : 1 ≤ k)
    (h : ∃ u, u ∈ g.lookAhead g.searchBound p ∧ u ∈ g.lookAhead g.searchBound q) :
    ∃ u, u ∈ g.lookAhead k p ∧ u ∈ g.lookAhead k q := by
  have hbound : 1 ≤ g.searchBound := Nat.le_add_left _ _
  rcases Nat.le_total k g.searchBound with hle | hle
  · exact exists_common_of_le hk hle h
  · obtain ⟨u, hup, huq⟩ := h
    rw [lookAhead_truncate _ hbound hle, WordSet.mem_truncate] at hup huq
    obtain ⟨v, hv, hvu⟩ := hup
    obtain ⟨w, hw, hwu⟩ := huq
    -- both words are padded in front of the bound, where they agree
    have hvw : v = w := (lookAhead_paddedFrom hp hk hv).eq_of_take_eq
      (lookAhead_paddedFrom hq hk hw) padding_lt_searchBound (hvu.trans hwu.symm)
    exact ⟨v, hv, hvw ▸ hw⟩

theorem separates_searchBound (hk : 1 ≤ k) (h : g.Separates k) : g.Separates g.searchBound := by
  intro a ha p hp q hq hpq u hup huq
  have hcommon := exists_common_of_searchBound (g.mem_productionsOf.1 hp).1
    (g.mem_productionsOf.1 hq).1 hk ⟨u, hup, huq⟩
  obtain ⟨v, hvp, hvq⟩ := hcommon
  exact h a ha p hp q hq hpq v hvp hvq

/-- What is found at all is found within the bound. -/
theorem findLookahead_searchBound {bound : Nat} (h : (g.findLookahead (some bound)).value = .ok k) :
    k ≤ g.searchBound ∧ (g.findLookahead (some g.searchBound)).value = .ok k := by
  have hle : k ≤ g.searchBound := by
    by_cases hdet : g.isDeterministic = true
    · rw [findLookahead_of_isDeterministic hdet] at h
      cases h
      exact Nat.zero_le _
    · rw [findLookahead_eq_ok_iff hdet] at h
      obtain ⟨⟨⟨hpos, hsep⟩, hleast⟩, -⟩ := h
      exact hleast ⟨Nat.le_add_left _ _, separates_searchBound hpos hsep⟩
  exact ⟨hle, findLookahead_mono h hle⟩

variable (g) in
/-- **The search is conclusive within its bound.** A larger bound finds the same lookahead, which is
within the smaller one. Productions that share a lookahead word of that length share one of every
length, so if they are alternatives the search finds nothing, however far it goes. -/
theorem findLookahead_conclusive :
    (∀ bound, g.searchBound ≤ bound → ∀ k, (g.findLookahead (some bound)).value = .ok k ↔
      k ≤ g.searchBound ∧ (g.findLookahead (some g.searchBound)).value = .ok k) ∧
    (∀ p ∈ g.productions, ∀ q ∈ g.productions,
      (∃ u, u ∈ g.lookAhead g.searchBound p ∧ u ∈ g.lookAhead g.searchBound q) →
      ∀ k, 1 ≤ k → ∃ u, u ∈ g.lookAhead k p ∧ u ∈ g.lookAhead k q) ∧
    (¬ g.Separates g.searchBound → (∀ k, 1 ≤ k → ¬ g.Separates k) ∧
      ∀ bound, (g.findLookahead (some bound)).value = .error (.notLlk bound)) := by
  refine ⟨fun bound hle k => ?_, fun p hp q hq h k hk => ?_, fun h => ?_⟩
  · constructor
    · exact findLookahead_searchBound
    · intro hk
      exact findLookahead_mono hk.2 (Nat.le_trans hk.1 hle)
  · exact exists_common_of_searchBound hp hq hk h
  · have hnever : ∀ k, 1 ≤ k → ¬ g.Separates k := fun k hk hsep => h (separates_searchBound hk hsep)
    have hdet : ¬ g.isDeterministic = true := fun hdet => h (separates_of_isDeterministic hdet)
    refine ⟨hnever, fun bound => ?_⟩
    rcases findLookahead_cases hdet bound with ⟨k, -, hleast, -⟩ | ⟨herror, -⟩
    · exact absurd hleast.1.2 (hnever k hleast.1.1)
    · exact herror

open Sample in
theorem findLookahead_conclusive_samples :
    sharedPrefix.searchBound = 13 ∧ 13 ≤ 100 ∧
      (sharedPrefix.findLookahead (some 100)).value = .ok 3 ∧
    sharedLeader.searchBound = 19 ∧ ¬ sharedLeader.Separates 19 ∧
      (sharedLeader.findLookahead (some 100)).value = .error (.notLlk 100) ∧
      ∃ u, u ∈ sharedLeader.lookAhead 100 ⟨S, [.nonterminal A, .terminal b]⟩ ∧
        u ∈ sharedLeader.lookAhead 100 ⟨S, [.nonterminal A, .terminal c]⟩ := by
  have hfound : (sharedPrefix.findLookahead (some 13)).value = .ok 3 := by decide +kernel
  have hp : [a] ∈ sharedLeader.lookAhead 19 ⟨S, [.nonterminal A, .terminal b]⟩ := by decide +kernel
  have hq : [a] ∈ sharedLeader.lookAhead 19 ⟨S, [.nonterminal A, .terminal c]⟩ := by decide +kernel
  have hsep : ¬ sharedLeader.Separates 19 := fun h =>
    h S (by decide) ⟨S, [.nonterminal A, .terminal b]⟩ (by decide)
      ⟨S, [.nonterminal A, .terminal c]⟩ (by decide) (by decide) [a] hp hq
  obtain ⟨hlarger, -, -⟩ := sharedPrefix.findLookahead_conclusive
  obtain ⟨-, hshared, hnone⟩ := sharedLeader.findLookahead_conclusive
  exact ⟨by decide, by decide, (hlarger 100 (by decide) 3).2 ⟨by decide, hfound⟩, by decide, hsep,
    (hnone hsep).2 100, hshared _ (by decide) _ (by decide) ⟨[a], hp, hq⟩ 100 (by decide)⟩

end Grammar

end TopDown
