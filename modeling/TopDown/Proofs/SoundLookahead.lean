import TopDown.Lookahead.Follow
import TopDown.Proofs.Derivability
import TopDown.Proofs.Samples
import TopDown.Proofs.Truncation

/-!
# Where lookahead words stand

The words that begin a form begin forms that are derived from it, and the words that follow a
nonterminal stand behind it in forms derived from the sentence symbol in front of end marks. The
rests of forms that are dropped and the nonterminals that are not opened again make the words
shorter or fewer, never wrong.

* `firstWithin_derives`: a word that begins a form is derived from it, with something behind it;
* **`first_sound`**;
* `Grammar.paddedStart`, `Grammar.StandsBefore`: what stands behind a nonterminal;
* `followWithin_induction`: how a property of the words that follow a nonterminal is carried from
  left sides to right sides; by it `followWithin_standsBefore`, and `lookAhead_derives`;
* `follow_eq_empty`, `lookAhead_eq_empty`: a nonterminal that is never derived;
* **`lookahead_sound`**.
-/

namespace TopDown

namespace Grammar

variable {g : Grammar} {opened : Opened} {k : Nat} {a : Nonterminal} {p : Production} {u : Word}

/-! ## The words that begin a form -/

/-- A word that begins a form is derived from it, with something behind it. -/
theorem firstWithin_derives {w : Form} (h : u ∈ g.firstWithin opened k w) :
    ∃ y, g.Derives w (Word.toForm u ++ y) := by
  induction opened, k, w using Grammar.firstWithin.induct g generalizing u with
  | case1 opened w =>
    rw [firstWithin] at h
    exact absurd h (OrderedSet.not_mem_empty u)
  | case2 opened k =>
    rw [firstWithin, OrderedSet.mem_singleton] at h
    subst h
    exact ⟨[], .refl _⟩
  | case3 opened k t w ih =>
    rw [firstWithin, WordSet.mem_concat_singleton] at h
    rcases h with ⟨-, rfl⟩ | ⟨v, hv, rfl⟩
    · exact ⟨w, .refl _⟩
    · obtain ⟨y, hy⟩ := ih hv
      exact ⟨y, hy.append_left [.terminal t]⟩
  | case4 opened k a w ha =>
    rw [firstWithin_nonterminal, if_pos ha] at h
    exact absurd h (OrderedSet.not_mem_empty u)
  | case5 opened k a w ha ihRest ihRight =>
    rw [firstWithin_nonterminal, if_neg ha, WordSet.mem_unionOf] at h
    obtain ⟨p, hp, hu⟩ := h
    have hstep : g.Derives (.nonterminal a :: w) (p.right ++ w) := .of_mem_productionsOf hp
    split at hu
    · rename_i hl
      have hright : p.right = [] := List.isEmpty_iff.1 hl
      obtain ⟨y, hy⟩ := ihRest hu
      rw [hright] at hstep
      exact ⟨y, hstep.trans hy⟩
    · obtain ⟨y, hy⟩ := ihRight p hp hu
      have hrest : g.Derives (p.right ++ w) ((Word.toForm u ++ y) ++ w) := hy.append_right w
      rw [List.append_assoc] at hrest
      exact ⟨y ++ w, hstep.trans hrest⟩

theorem first_derives {w : Form} (h : u ∈ g.first k w) : ∃ y, g.Derives w (Word.toForm u ++ y) := by
  rw [first_eq_firstWithin] at h
  exact firstWithin_derives h

/-- The words that begin a form for `k` are cut to length `k`. -/
theorem length_le_of_mem_first {w : Form} (h : u ∈ g.first k w) : u.length ≤ k := by
  cases k with
  | zero =>
    rw [first_eq_firstWithin, firstWithin] at h
    exact absurd h (OrderedSet.not_mem_empty u)
  | succ k =>
    rw [first_truncate w (Nat.succ_pos k) (Nat.le_refl _), WordSet.mem_truncate] at h
    obtain ⟨v, -, rfl⟩ := h
    exact List.length_take_le _ _

/-- **The words that begin a form begin forms that are derived from it**, and they have at most `k`
terminals. -/
theorem first_sound {w : Form} (h : u ∈ g.first k w) :
    u.length ≤ k ∧ ∃ y, g.Derives w (Word.toForm u ++ y) :=
  ⟨length_le_of_mem_first h, first_derives h⟩

open Sample in
theorem first_sound_lists :
    ([Sample.a] ∈ lists.first 2 [.nonterminal A, .terminal b, .nonterminal B] ∧ [Sample.a].length ≤ 2 ∧
      ∃ y, lists.Derives [.nonterminal A, .terminal b, .nonterminal B] (.terminal Sample.a :: y)) ∧
    [b, x] ∈ lists.first 2 [.nonterminal A, .terminal b, .nonterminal B] ∧ [b, x].length ≤ 2 ∧
      ∃ y, lists.Derives [.nonterminal A, .terminal b, .nonterminal B]
        (.terminal b :: .terminal x :: y) := by
  -- the rest of the form is dropped behind `A -> aA`, and nothing is known of the open `A`
  have hcut : [Sample.a] ∈ lists.first 2 [.nonterminal A, .terminal b, .nonterminal B] := by decide
  have hlambda : [b, x] ∈ lists.first 2 [.nonterminal A, .terminal b, .nonterminal B] := by decide
  exact ⟨⟨hcut, first_sound hcut⟩, hlambda, first_sound hlambda⟩

/-! ## The words that follow a nonterminal -/

variable (g) in
/-- The sentence symbol in front of `k` end marks. -/
def paddedStart (k : Nat) : Form :=
  .nonterminal g.start :: Word.toForm (List.replicate k .endMark)

variable (g) in
/-- The nonterminal stands in front of the form `f` in a form derived from the sentence symbol in
front of `k` end marks. -/
def StandsBefore (k : Nat) (a : Nonterminal) (f : Form) : Prop :=
  ∃ x, g.Derives (g.paddedStart k) (x ++ .nonterminal a :: f)

/-- What stands behind a left side stands behind the right side. -/
theorem StandsBefore.after {f : Form} (h : g.StandsBefore k p.left f) (hp : p ∈ g.productions)
    (ha : .nonterminal a ∈ p.right) : g.StandsBefore k a (p.after (.nonterminal a) ++ f) := by
  obtain ⟨x, hx⟩ := h
  obtain ⟨l, hl⟩ := Production.exists_append_afterIn ha
  have hstep : g.Derives (.nonterminal p.left :: f) (p.right ++ f) :=
    .of_mem_productionsOf (g.mem_productionsOf.2 ⟨hp, rfl⟩)
  have hright : x ++ (p.right ++ f) =
      (x ++ l) ++ .nonterminal a :: (p.after (.nonterminal a) ++ f) := by
    have hsplit : p.right = l ++ .nonterminal a :: p.after (.nonterminal a) := hl
    rw [List.append_assoc x l, ← List.cons_append, ← List.append_assoc l, ← hsplit]
  refine ⟨x ++ l, ?_⟩
  rw [← hright]
  exact hx.trans (hstep.append_left x)

theorem StandsBefore.derives {f f' : Form} (h : g.StandsBefore k a f) (hf : g.Derives f f') :
    g.StandsBefore k a f' := by
  obtain ⟨x, hx⟩ := h
  exact ⟨x, hx.trans ((hf.append_left [.nonterminal a]).append_left x)⟩

/-- What holds of the end of the input behind the sentence symbol, and passes from what follows a
left side to the words that begin there, holds of all words that follow a nonterminal. -/
theorem followWithin_induction {motive : Nonterminal → Word → Prop}
    (hend : motive g.start (List.replicate k .endMark))
    (hstep : ∀ p ∈ g.productions, ∀ a f v, .nonterminal a ∈ p.right → motive p.left f →
      v ∈ g.first k (p.after (.nonterminal a) ++ Word.toForm f) → motive a v)
    (h : u ∈ g.followWithin opened k a) : motive a u := by
  have hendOfInput : ∀ a, ∀ v ∈ g.endOfInput k a, motive a v := by
    intro a v hv
    unfold endOfInput at hv
    split at hv
    · rename_i ha
      rw [OrderedSet.mem_singleton] at hv
      exact ha ▸ hv ▸ hend
    · exact absurd hv (OrderedSet.not_mem_empty v)
  induction opened, a using Grammar.followWithin.induct g generalizing u with
  | case1 opened a ha =>
    rw [followWithin_eq, if_pos ha] at h
    exact hendOfInput a u h
  | case2 opened a ha ih =>
    rw [followWithin_eq, if_neg ha, OrderedSet.mem_union, WordSet.mem_unionOf] at h
    rcases h with h | ⟨p, hp, hu⟩
    · exact hendOfInput a u h
    · split at hu
      · exact absurd hu (OrderedSet.not_mem_empty u)
      · rename_i hne
        obtain ⟨f, hf, hu⟩ := mem_firstBefore.1 hu
        have ha : Symbol.nonterminal a ∈ p.right :=
          p.mem_right_of_after fun e => hne (e ▸ rfl)
        exact hstep p hp a f u ha (ih p hp hne hf) hu

/-- **A word that follows a nonterminal stands behind it in a derived form.** -/
theorem followWithin_standsBefore (h : u ∈ g.followWithin opened k a) :
    ∃ y, g.StandsBefore k a (Word.toForm u ++ y) := by
  refine followWithin_induction (motive := fun a u => ∃ y, g.StandsBefore k a (Word.toForm u ++ y))
    ⟨[], [], ?_⟩ (fun p hp a f v ha hf hv => ?_) h
  · rw [List.append_nil]
    exact .refl _
  · obtain ⟨y, hy⟩ := hf
    obtain ⟨z, hz⟩ := first_derives hv
    have hbehind := hy.after hp ha
    rw [← List.append_assoc] at hbehind
    have hword := hbehind.derives (hz.append_right y)
    rw [List.append_assoc] at hword
    exact ⟨z ++ y, hword⟩

theorem follow_standsBefore (h : u ∈ g.follow k a) :
    ∃ y, g.StandsBefore k a (Word.toForm u ++ y) := by
  rw [follow_eq_followWithin] at h
  exact followWithin_standsBefore h

/-- A lookahead word begins what is derived from the right side in front of something that stands
behind the left side. -/
theorem lookAhead_derives (hk : 1 ≤ k) (h : u ∈ g.lookAhead k p) :
    ∃ f y, g.StandsBefore k p.left f ∧ g.Derives (p.right ++ f) (Word.toForm u ++ y) := by
  rw [lookAhead_of_pos p hk, mem_firstBefore] at h
  obtain ⟨f, hf, hu⟩ := h
  obtain ⟨y, hy⟩ := follow_standsBefore hf
  obtain ⟨z, hz⟩ := first_derives hu
  refine ⟨Word.toForm f ++ y, z ++ y, hy, ?_⟩
  have hword := hz.append_right y
  rwa [List.append_assoc, List.append_assoc] at hword

/-! ## Nonterminals that are never derived -/

/-- What stands in a form derived in front of end marks is derived without them. -/
theorem StandsBefore.exists_derives {f : Form} (h : g.StandsBefore k a f) :
    ∃ y, g.Derives [.nonterminal g.start] y ∧ .nonterminal a ∈ y := by
  obtain ⟨x, hx⟩ := h
  obtain ⟨y, hy, hd⟩ := Derives.exists_of_append_toForm (x := [.nonterminal g.start]) hx
  refine ⟨y, hd, ?_⟩
  have hmem : Symbol.nonterminal a ∈ y ++ Word.toForm (List.replicate k .endMark) := by
    rw [← hy]
    exact List.mem_append_right x List.mem_cons_self
  rcases List.mem_append.1 hmem with ha | ha
  · exact ha
  · exact absurd ha (Word.nonterminal_not_mem_toForm a _)

/-- Nothing follows a nonterminal that is never derived. -/
theorem follow_eq_empty
    (h : ∀ y, g.Derives [.nonterminal g.start] y → .nonterminal a ∉ y) : g.follow k a = ∅ := by
  ext u
  constructor
  · intro hu
    obtain ⟨y, hy⟩ := follow_standsBefore hu
    obtain ⟨z, hz, ha⟩ := hy.exists_derives
    exact absurd ha (h z hz)
  · intro hu
    exact absurd hu (OrderedSet.not_mem_empty u)

theorem lookAhead_eq_empty (hk : 1 ≤ k) (h : g.follow k p.left = ∅) : g.lookAhead k p = ∅ := by
  rw [lookAhead_of_pos p hk, h]
  rfl

variable (g) in
/-- **Lookahead words stand in derivations** from the sentence symbol in front of `k` end marks: a
word that follows a nonterminal stands behind it in a derived form, and a lookahead word of a
production begins what its right side derives in front of something that stands behind its left
side. So a nonterminal that no form derived from the sentence symbol holds has none of either. -/
theorem lookahead_sound (k : Nat) :
    (∀ a, ∀ u ∈ g.follow k a, ∃ x y,
      g.Derives (.nonterminal g.start :: Word.toForm (List.replicate k .endMark))
        (x ++ .nonterminal a :: (Word.toForm u ++ y))) ∧
    (1 ≤ k → ∀ p, ∀ u ∈ g.lookAhead k p, ∃ x f y,
      g.Derives (.nonterminal g.start :: Word.toForm (List.replicate k .endMark))
        (x ++ .nonterminal p.left :: f) ∧ g.Derives (p.right ++ f) (Word.toForm u ++ y)) ∧
    ∀ a, (∀ y, g.Derives [.nonterminal g.start] y → .nonterminal a ∉ y) →
      g.follow k a = ∅ ∧ (1 ≤ k → ∀ p, p.left = a → g.lookAhead k p = ∅) := by
  refine ⟨fun a u hu => ?_, fun hk p u hu => ?_, fun a ha => ?_⟩
  · obtain ⟨y, x, hx⟩ := follow_standsBefore hu
    exact ⟨x, y, hx⟩
  · obtain ⟨f, y, ⟨x, hx⟩, hy⟩ := lookAhead_derives hk hu
    exact ⟨x, f, y, hx, hy⟩
  · refine ⟨follow_eq_empty ha, fun hk p hp => lookAhead_eq_empty hk ?_⟩
    rw [hp]
    exact follow_eq_empty ha

open Sample in
theorem lookahead_sound_samples :
    ([b, y] ∈ lists.follow 2 A ∧ ∃ x y',
      lists.Derives (.nonterminal S :: Word.toForm (List.replicate 2 .endMark))
        (x ++ .nonterminal A :: (Word.toForm [b, y] ++ y'))) ∧
    (1 ≤ 2 ∧ [b, x] ∈ lists.lookAhead 2 ⟨A, []⟩ ∧ ∃ x' f y,
      lists.Derives (.nonterminal S :: Word.toForm (List.replicate 2 .endMark))
        (x' ++ .nonterminal A :: f) ∧ lists.Derives ([] ++ f) (Word.toForm [b, x] ++ y)) ∧
    (∀ y, detached.Derives [.nonterminal S] y → .nonterminal A ∉ y) ∧
      detached.follow 2 A = ∅ ∧ detached.lookAhead 2 ⟨A, [.nonterminal S, .terminal b]⟩ = ∅ := by
  have hfollow : [b, y] ∈ lists.follow 2 A := by decide
  have hlookAhead : [b, x] ∈ lists.lookAhead 2 ⟨A, []⟩ := by decide
  have hnever : ∀ y, detached.Derives [.nonterminal S] y → .nonterminal A ∉ y := by
    intro y hy
    induction hy with
    | refl => decide
    | tail _ hstep ih =>
      obtain @⟨p, l, r, hp⟩ := hstep
      rcases List.mem_cons.1 hp with rfl | hp
      · simp_all
      · simp_all [detached]
  obtain ⟨hsound, hselect, -⟩ := lists.lookahead_sound 2
  obtain ⟨-, -, hempty⟩ := detached.lookahead_sound 2
  obtain ⟨hnone, hnoneSelect⟩ := hempty A hnever
  exact ⟨⟨hfollow, hsound A _ hfollow⟩,
    ⟨by decide, hlookAhead, hselect (by decide) ⟨A, []⟩ _ hlookAhead⟩,
    hnever, hnone, hnoneSelect (by decide) _ rfl⟩

end Grammar

end TopDown
