import Mathlib.Data.Finset.Card
import TopDown.Proofs.Language

/-!
# Alternatives that begin with terminals

Where every right side begins with `m` terminals, a lookahead of at most `m` shows nothing but the
right side. So it tells two alternatives apart iff they differ that early, the least one that tells
all of them apart is one terminal longer than the longest prefix that two of them share, and a
parser that it serves accepts the whole language.

* `Grammar.LedBy`, `LedBy.mem_lookAhead_iff`: a lookahead word begins the right side;
* `Grammar.SharesPrefix`: two alternatives begin alike; `LedBy.separates_iff`;
* `LedBy.isGreatest_sharesPrefix`: the least lookahead and the longest common prefix;
* `LedBy.take_mem_lookAhead`: the window of the parser; **`shared_prefix_correct`**.
-/

namespace TopDown

namespace Grammar

variable {g : Grammar} {opened : Opened} {j k m n : Nat} {a : Nonterminal} {p : Production}
  {u : Word}

/-! ## Right sides that begin with terminals -/

/-- Every right side begins with `m` terminals at least. -/
def LedBy (g : Grammar) (m : Nat) : Prop :=
  ∀ p ∈ g.productions, ∃ (u : Word) (y : Form), m ≤ u.length ∧ p.right = Word.toForm u ++ y

/-- Of a form that begins with as many terminals as are looked at, nothing else is seen. -/
theorem firstWithin_toForm_append (y : Form) (h : 1 ≤ u.length) :
    g.firstWithin opened u.length (Word.toForm u ++ y) = {u} := by
  induction u with
  | nil => cases h
  | cons t u ih =>
    rw [Word.toForm_cons, List.cons_append, List.length_cons, firstWithin]
    cases u with
    | nil => rw [List.length_nil, firstWithin, WordSet.concat_empty]
    | cons s u =>
      rw [ih (Nat.succ_pos _)]
      rfl

/-- What is followed by one terminal is followed by words of every length. -/
theorem follow_ne_empty (hk : 1 ≤ k) (h : g.follow 1 a ≠ ∅) : g.follow k a ≠ ∅ := by
  intro hnone
  rw [follow_truncate a (Nat.le_refl 1) hk, hnone] at h
  exact h rfl

/-- A right side begins with exactly so many terminals, up to `m`. -/
theorem LedBy.exists_take (h : g.LedBy m) (hkm : k ≤ m) (hp : p ∈ g.productions) :
    ∃ (u : Word) (y : Form), u.length = k ∧ p.right = Word.toForm u ++ y := by
  obtain ⟨u, y, hu, hright⟩ := h p hp
  refine ⟨u.take k, (Word.toForm u).drop k ++ y, ?_, ?_⟩
  · rw [List.length_take]
    omega
  · rw [Word.toForm_take, ← List.append_assoc, List.take_append_drop, hright]

/-- **The lookahead word of a production is the beginning of its right side.** -/
theorem LedBy.mem_lookAhead_iff (h : g.LedBy m) (hk : 1 ≤ k) (hkm : k ≤ m)
    (hp : p ∈ g.productionsOf a) (hfollow : g.follow 1 a ≠ ∅) :
    u ∈ g.lookAhead k p ↔ Word.toForm u = p.right.take k := by
  obtain ⟨hmem, rfl⟩ := g.mem_productionsOf.1 hp
  obtain ⟨r, y, rfl, hright⟩ := h.exists_take hkm hmem
  obtain ⟨f, hf⟩ := WordSet.exists_mem_of_ne_empty (follow_ne_empty hk hfollow)
  -- what follows the left side stands behind all that is looked at
  have hfirst : ∀ f : Word, g.first r.length (p.right ++ Word.toForm f) = {r} := by
    intro f
    rw [hright, List.append_assoc, first_eq_firstWithin, firstWithin_toForm_append _ hk]
  rw [lookAhead_of_pos p hk, mem_firstBefore, hright, Word.take_toForm_append, Word.toForm_inj,
    ← hright]
  simp only [hfirst, OrderedSet.mem_singleton]
  constructor
  · rintro ⟨-, -, hu⟩
    exact hu
  · intro hu
    exact ⟨f, hf, hu⟩

/-! ## Common prefixes -/

/-- Two alternatives of a nonterminal have a common prefix of `n` symbols. -/
def SharesPrefix (g : Grammar) (n : Nat) : Prop :=
  ∃ a ∈ g.nonterminals, ∃ p ∈ g.productionsOf a, ∃ q ∈ g.productionsOf a, p ≠ q ∧
    ∃ x : Form, x.length = n ∧ x <+: p.right ∧ x <+: q.right

theorem SharesPrefix.mono (h : g.SharesPrefix n) (hj : j ≤ n) : g.SharesPrefix j := by
  obtain ⟨a, ha, p, hp, q, hq, hpq, x, rfl, hxp, hxq⟩ := h
  have hx : x.take j <+: x := List.take_prefix j x
  exact ⟨a, ha, p, hp, q, hq, hpq, x.take j, List.length_take_of_le hj, hx.trans hxp, hx.trans hxq⟩

/-- Alternatives that begin with terminals share a prefix up to `m` symbols if they are equal as far
as that. -/
theorem LedBy.sharesPrefix_iff (h : g.LedBy m) (hkm : k ≤ m) :
    g.SharesPrefix k ↔ ∃ a ∈ g.nonterminals, ∃ p ∈ g.productionsOf a, ∃ q ∈ g.productionsOf a,
      p ≠ q ∧ p.right.take k = q.right.take k := by
  have hlength : ∀ a, ∀ p ∈ g.productionsOf a, k ≤ p.right.length := by
    intro a p hp
    obtain ⟨u, y, hu, hright⟩ := h p (g.mem_productionsOf.1 hp).1
    rw [hright, List.length_append, Word.length_toForm]
    omega
  constructor
  · rintro ⟨a, ha, p, hp, q, hq, hpq, x, rfl, hxp, hxq⟩
    rw [List.prefix_iff_eq_take] at hxp hxq
    exact ⟨a, ha, p, hp, q, hq, hpq, hxp.symm.trans hxq⟩
  · rintro ⟨a, ha, p, hp, q, hq, hpq, htake⟩
    exact ⟨a, ha, p, hp, q, hq, hpq, p.right.take k, List.length_take_of_le (hlength a p hp),
      List.take_prefix k _, htake ▸ List.take_prefix k _⟩

/-- **A lookahead tells the alternatives apart iff no two of them share a prefix of its length.** -/
theorem LedBy.separates_iff (h : g.LedBy m) (hfollow : ∀ a ∈ g.nonterminals, g.follow 1 a ≠ ∅)
    (hk : 1 ≤ k) (hkm : k ≤ m) : g.Separates k ↔ ¬ g.SharesPrefix k := by
  rw [h.sharesPrefix_iff hkm]
  constructor
  · rintro hsep ⟨a, ha, p, hp, q, hq, hpq, htake⟩
    obtain ⟨u, y, rfl, hright⟩ := h.exists_take hkm (g.mem_productionsOf.1 hp).1
    have hu : Word.toForm u = p.right.take u.length := by
      rw [hright, Word.take_toForm_append]
    exact hsep a ha p hp q hq hpq u ((h.mem_lookAhead_iff hk hkm hp (hfollow a ha)).2 hu)
      ((h.mem_lookAhead_iff hk hkm hq (hfollow a ha)).2 (hu.trans htake))
  · intro hnone a ha p hp q hq hpq u hup huq
    rw [h.mem_lookAhead_iff hk hkm hp (hfollow a ha)] at hup
    rw [h.mem_lookAhead_iff hk hkm hq (hfollow a ha)] at huq
    exact hnone ⟨a, ha, p, hp, q, hq, hpq, hup.symm.trans huq⟩

/-! ## The least lookahead -/

/-- Any two alternatives share the empty prefix. -/
theorem sharesPrefix_zero_iff :
    g.SharesPrefix 0 ↔ ∃ a ∈ g.nonterminals, 2 ≤ (g.productionsOf a).length := by
  refine exists_congr fun a => and_congr_right fun _ => ?_
  rw [← List.toFinset_card_of_nodup (nodup_productionsOf a), Nat.succ_le_iff, Finset.one_lt_card]
  simp only [List.mem_toFinset]
  constructor
  · rintro ⟨p, hp, q, hq, hpq, -⟩
    exact ⟨p, hp, q, hq, hpq⟩
  · rintro ⟨p, hp, q, hq, hpq⟩
    exact ⟨p, hp, q, hq, hpq, [], rfl, List.nil_prefix, List.nil_prefix⟩

/-- **The least lookahead is one terminal longer than the longest common prefix.** -/
theorem LedBy.isGreatest_sharesPrefix (h : g.LedBy m)
    (hfollow : ∀ a ∈ g.nonterminals, g.follow 1 a ≠ ∅) (hzero : g.SharesPrefix 0)
    (hleast : IsLeast {k | 1 ≤ k ∧ g.Separates k} (n + 1)) (hnm : n + 1 ≤ m) :
    IsGreatest {n | g.SharesPrefix n} n := by
  obtain ⟨⟨hpos, hsep⟩, hlower⟩ := hleast
  constructor
  · show g.SharesPrefix n
    by_cases hn : n = 0
    · exact hn ▸ hzero
    · by_contra hnot
      have hearlier : g.Separates n := (h.separates_iff hfollow (by omega) (by omega)).2 hnot
      have hle : n + 1 ≤ n := hlower ⟨by omega, hearlier⟩
      omega
  · intro j hj
    by_contra hlt
    exact (h.separates_iff hfollow hpos hnm).1 hsep (SharesPrefix.mono hj (by omega))

/-- What is found, where there is a nonterminal without exactly one production. -/
theorem LedBy.eq_of_findLookahead (h : g.LedBy m)
    (hfollow : ∀ a ∈ g.nonterminals, g.follow 1 a ≠ ∅) (hdet : ¬ g.isDeterministic = true)
    (hk : (g.findLookahead (some m)).value = .ok k) :
    (g.SharesPrefix 0 → ∃ n, IsGreatest {n | g.SharesPrefix n} n ∧ k = n + 1) ∧
      (¬ g.SharesPrefix 0 → k = 1) := by
  obtain ⟨hleast, hkm⟩ := (findLookahead_eq_ok_iff hdet).1 hk
  have hpos : 1 ≤ k := hleast.1.1
  constructor
  · intro hzero
    obtain ⟨n, rfl⟩ : ∃ n, k = n + 1 := ⟨k - 1, by omega⟩
    exact ⟨n, h.isGreatest_sharesPrefix hfollow hzero hleast hkm, rfl⟩
  · intro hnone
    have hone : g.Separates 1 :=
      (h.separates_iff hfollow (Nat.le_refl 1) (by omega)).2 fun hshares =>
        hnone (hshares.mono (Nat.zero_le 1))
    have hle : k ≤ 1 := hleast.2 ⟨Nat.le_refl 1, hone⟩
    omega

/-! ## The parser -/

/-- In front of what a right side consumes stand the terminals that it begins with. -/
theorem LedBy.take_mem_lookAhead (h : g.LedBy m) (hkm : k ≤ m) (hp : p ∈ g.productionsOf a)
    (hfollow : g.follow 1 a ≠ ∅) {v : Word} {ds : List Production}
    (hu : Consumes g.selection p.right u ds v) : u.take k ∈ g.lookAhead k p := by
  by_cases hk : k = 0
  · rw [hk, lookAhead, if_pos rfl, List.take_zero]
    exact OrderedSet.mem_singleton.2 rfl
  · obtain ⟨r, y, rfl, hright⟩ := h.exists_take hkm (g.mem_productionsOf.1 hp).1
    rw [hright] at hu
    obtain ⟨_, rest, _, -, hfront, -⟩ := hu.exists_of_append
    obtain ⟨-, rfl⟩ := Consumes.toForm_iff.1 hfront
    rw [h.mem_lookAhead_iff (Nat.one_le_iff_ne_zero.2 hk) hkm hp hfollow, hright, List.take_left,
      Word.take_toForm_append]

/-- **Where every right side begins with `m` terminals the search is exact within the bound `m`.** It
succeeds iff any two alternatives of a nonterminal differ within their first `m` symbols. What it
finds is 0 if every nonterminal has exactly one production; otherwise it is one more than the length
of the longest prefix that two alternatives share, or 1 if no nonterminal has two. The parser then
accepts the whole language of the grammar. -/
theorem shared_prefix_correct (hm : 1 ≤ m) (hled : g.LedBy m)
    (hfollow : ∀ a ∈ g.nonterminals, g.follow 1 a ≠ ∅) :
    ((∃ k, (g.findLookahead (some m)).value = .ok k) ↔
      ∀ a ∈ g.nonterminals, ∀ p ∈ g.productionsOf a, ∀ q ∈ g.productionsOf a, p ≠ q →
        p.right.take m ≠ q.right.take m) ∧
    ∀ k, (g.findLookahead (some m)).value = .ok k →
      ((∀ a ∈ g.nonterminals, (g.productionsOf a).length = 1) → k = 0) ∧
      ((¬ ∀ a ∈ g.nonterminals, (g.productionsOf a).length = 1) →
        ((∃ a ∈ g.nonterminals, 2 ≤ (g.productionsOf a).length) →
          ∃ n, IsGreatest {n | g.SharesPrefix n} n ∧ k = n + 1) ∧
        ((¬ ∃ a ∈ g.nonterminals, 2 ≤ (g.productionsOf a).length) → k = 1)) ∧
      ∃ P, (g.toParser (some m)).value = .ok P ∧ P.k = k ∧ ∀ text, P.accepts text = true ↔
        ∃ w : Word, text.toList = w.map Terminal.char ∧ (∀ x ∈ w, x ≠ .endMark) ∧
          g.Derives [.nonterminal g.start] (Word.toForm w) := by
  constructor
  · rw [findLookahead_isOk_iff hm, hled.separates_iff hfollow hm (Nat.le_refl m),
      hled.sharesPrefix_iff (Nat.le_refl m)]
    simp only [not_exists, not_and, ne_eq]
  · intro k hk
    rw [← sharesPrefix_zero_iff, ← isDeterministic_iff]
    refine ⟨fun hdet => ?_, fun hdet => hled.eq_of_findLookahead hfollow hdet hk,
      _, toParser_of_findLookahead hk, k_tabulate, fun text => ?_⟩
    · rw [findLookahead_of_isDeterministic hdet] at hk
      exact (Except.ok.inj hk).symm
    · have hkm : k ≤ m := findLookahead_le hk
      refine accepts_iff_derives (separates_of_findLookahead hk) fun a p u ds v hp hu => ?_
      exact hled.take_mem_lookAhead hkm hp
        (hfollow a (g.mem_nonterminals_of_productionsOf hp)) hu

open Sample in
theorem shared_prefix_correct_sharedLetter :
    (1 ≤ 2 ∧ sharedLetter.LedBy 2 ∧ ∀ a ∈ sharedLetter.nonterminals, sharedLetter.follow 1 a ≠ ∅) ∧
    ((sharedLetter.findLookahead (some 2)).value = .ok 2 ∧
      IsGreatest {n | sharedLetter.SharesPrefix n} 1) ∧
    ∃ P, (sharedLetter.toParser (some 2)).value = .ok P ∧ P.k = 2 ∧
      P.accepts "ababbc" = true := by
  have hled : sharedLetter.LedBy 2 := by
    refine List.forall_mem_cons.2 ⟨⟨[Sample.a, b], [.nonterminal A, .terminal c], by decide, rfl⟩,
      List.forall_mem_cons.2 ⟨⟨[Sample.a, c, d], [], by decide, rfl⟩,
      List.forall_mem_cons.2 ⟨⟨[Sample.a, Sample.a], [.nonterminal S, .terminal b], by decide, rfl⟩,
      List.forall_mem_singleton.2 ⟨[Sample.a, b, b], [], by decide, rfl⟩⟩⟩⟩
  have hfollow : ∀ a ∈ sharedLetter.nonterminals, sharedLetter.follow 1 a ≠ ∅ := by
    have : ∀ a ∈ sharedLetter.nonterminals.toList, sharedLetter.follow 1 a ≠ ∅ := by decide
    exact this
  have hfound : (sharedLetter.findLookahead (some 2)).value = .ok 2 := by decide +kernel
  have htwo : ∃ a ∈ sharedLetter.nonterminals, 2 ≤ (sharedLetter.productionsOf a).length :=
    ⟨S, by decide, by decide⟩
  have hmany : ¬ ∀ a ∈ sharedLetter.nonterminals, (sharedLetter.productionsOf a).length = 1 :=
    fun h => absurd (h S (by decide)) (by decide)
  obtain ⟨-, hexact⟩ := shared_prefix_correct (show 1 ≤ 2 by decide) hled hfollow
  obtain ⟨-, hlookahead, P, hP, hk, haccepts⟩ := hexact 2 hfound
  obtain ⟨n, hn, hnext⟩ := (hlookahead hmany).1 htwo
  cases hnext
  refine ⟨⟨by decide, hled, hfollow⟩, ⟨hfound, hn⟩, P, hP, hk,
    (haccepts "ababbc").2 ⟨[Sample.a, b, Sample.a, b, b, c], rfl, by decide, ?_⟩⟩
  have houter : sharedLetter.Derives [.nonterminal S]
      [.terminal Sample.a, .terminal b, .nonterminal A, .terminal c] :=
    .of_mem_productionsOf (x := [])
      (p := ⟨S, [.terminal Sample.a, .terminal b, .nonterminal A, .terminal c]⟩) (by decide)
  have hinner : sharedLetter.Derives [.nonterminal A, .terminal c]
      [.terminal Sample.a, .terminal b, .terminal b, .terminal c] :=
    .of_mem_productionsOf (x := [.terminal c])
      (p := ⟨A, [.terminal Sample.a, .terminal b, .terminal b]⟩) (by decide)
  exact houter.trans (hinner.append_left [.terminal Sample.a, .terminal b])

end Grammar

end TopDown
