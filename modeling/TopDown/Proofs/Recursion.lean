import TopDown.Lookahead.Follow

/-!
# The recursions that the walks are

A walk is a recursion with a state. One set of open nonterminals is handed from each call to the
next: a nonterminal is put in where its right sides are entered, taken out behind them, and where it
is met again in between the call returns at once. Nothing bounds the depth of this recursion, so that
it ends has to be shown; a call that ends is related here to what it gives and to the set that it
hands on.

* `Production.readOn`: what is read in place of a nonterminal;
* `FirstCall`, `Grammar.FirstRun` and `FollowCall`, `Grammar.FollowRun`: the calls, and how they end;
* `Grammar.firstRun_iff`, `Grammar.followRun_iff`: every call ends, in one way, and hands on the set
  that it was given;
* **`Grammar.walks_traceless`**.
-/

namespace TopDown

/-- What is read in place of a nonterminal that the production is chosen for: the rest of the form
behind it if the production is empty, else its right side without that rest. -/
def Production.readOn (p : Production) (rest : Form) : Form := if p.isLambda then rest else p.right

/-- A call that collects the words that begin a form, or the words of one alternative after the other
for a nonterminal with a rest of a form behind it. -/
inductive FirstCall where
  | form (k : Nat) (w : Form)
  | alternatives (k : Nat) (rest : Form) (ps : List Production)

/-- A call that collects the words that follow a nonterminal, or the words behind it in one
production after the other. -/
inductive FollowCall where
  | nonterminal (a : Nonterminal)
  | productions (a : Nonterminal) (ps : List Production)

namespace Grammar

variable (g : Grammar)

/-- The call, made with a set of open nonterminals, ends with some words and hands on a set. -/
inductive FirstRun : FirstCall → Opened → WordSet → Opened → Prop
  | zero {w : Form} {opened : Opened} : FirstRun (.form 0 w) opened ∅ opened
  | nil {k : Nat} {opened : Opened} : FirstRun (.form (k + 1) []) opened {[]} opened
  | terminal {k : Nat} {t : Terminal} {w : Form} {opened opened' : Opened} {words : WordSet} :
      FirstRun (.form k w) opened words opened' →
      FirstRun (.form (k + 1) (.terminal t :: w)) opened (WordSet.concat {[t]} words) opened'
  | cycle {k : Nat} {a : Nonterminal} {w : Form} {opened : Opened} : a ∈ opened →
      FirstRun (.form (k + 1) (.nonterminal a :: w)) opened ∅ opened
  | opening {k : Nat} {a : Nonterminal} {w : Form} {opened opened' : Opened} {words : WordSet} :
      a ∉ opened →
      FirstRun (.alternatives (k + 1) w (g.productionsOf a)) (opened.insert a) words opened' →
      FirstRun (.form (k + 1) (.nonterminal a :: w)) opened words (opened'.erase a)
  | none {k : Nat} {rest : Form} {opened : Opened} :
      FirstRun (.alternatives k rest []) opened ∅ opened
  | alternative {k : Nat} {rest : Form} {p : Production} {ps : List Production}
      {opened opened' opened'' : Opened} {words words' : WordSet} :
      FirstRun (.form k (p.readOn rest)) opened words opened' →
      FirstRun (.alternatives k rest ps) opened' words' opened'' →
      FirstRun (.alternatives k rest (p :: ps)) opened (words ∪ words') opened''

/-- The call, made with a set of open nonterminals, ends with some words of `k` terminals and hands
on a set. -/
inductive FollowRun (k : Nat) : FollowCall → Opened → WordSet → Opened → Prop
  | cycle {a : Nonterminal} {opened : Opened} : a ∈ opened →
      FollowRun k (.nonterminal a) opened (g.endOfInput k a) opened
  | opening {a : Nonterminal} {opened opened' : Opened} {words : WordSet} : a ∉ opened →
      FollowRun k (.productions a g.productions) (opened.insert a) words opened' →
      FollowRun k (.nonterminal a) opened (g.endOfInput k a ∪ words) (opened'.erase a)
  | none {a : Nonterminal} {opened : Opened} : FollowRun k (.productions a []) opened ∅ opened
  | skipped {a : Nonterminal} {p : Production} {ps : List Production} {opened opened' : Opened}
      {words : WordSet} : p.after (.nonterminal a) = [] →
      FollowRun k (.productions a ps) opened words opened' →
      FollowRun k (.productions a (p :: ps)) opened words opened'
  | entered {a : Nonterminal} {p : Production} {ps : List Production}
      {opened opened' opened'' : Opened} {outer words : WordSet} : p.after (.nonterminal a) ≠ [] →
      FollowRun k (.nonterminal p.left) opened outer opened' →
      FollowRun k (.productions a ps) opened' words opened'' →
      FollowRun k (.productions a (p :: ps)) opened
        (g.firstBefore k (p.after (.nonterminal a)) outer ∪ words) opened''

/-! ## The words that begin a form -/

/-- The words that a call is to collect while `opened` is open. -/
def firstOfCall (opened : Opened) : FirstCall → WordSet
  | .form k w => g.firstWithin opened k w
  | .alternatives k rest ps => .unionOf ps fun p => g.firstWithin opened k (p.readOn rest)

variable {g} {k : Nat} {a : Nonterminal} {w : Form} {opened opened' : Opened} {words : WordSet}

/-- The words that begin a form behind a nonterminal that is not open are those of its alternatives. -/
theorem firstWithin_of_not_mem (ha : a ∉ opened) :
    g.firstWithin opened (k + 1) (.nonterminal a :: w) =
      .unionOf (g.productionsOf a) fun p =>
        g.firstWithin (opened.insert a) (k + 1) (p.readOn w) := by
  rw [firstWithin_nonterminal, if_neg ha]
  refine WordSet.unionOf_congr fun p _ => ?_
  rw [Production.readOn]
  split <;> rfl

/-- What a call gives, and what it hands on. -/
theorem FirstRun.eq {c : FirstCall} (h : g.FirstRun c opened words opened') :
    words = g.firstOfCall opened c ∧ opened' = opened := by
  induction h with
  | zero => exact ⟨by rw [firstOfCall, firstWithin], rfl⟩
  | nil => exact ⟨by rw [firstOfCall, firstWithin], rfl⟩
  | terminal _ ih =>
    obtain ⟨rfl, rfl⟩ := ih
    exact ⟨by rw [firstOfCall, firstOfCall, firstWithin], rfl⟩
  | cycle ha => exact ⟨by rw [firstOfCall, firstWithin_nonterminal, if_pos ha], rfl⟩
  | opening ha _ ih =>
    obtain ⟨rfl, rfl⟩ := ih
    exact ⟨(firstWithin_of_not_mem ha).symm, OrderedSet.erase_insert ha⟩
  | none => exact ⟨rfl, rfl⟩
  | alternative _ _ ihForm ihRest =>
    obtain ⟨rfl, rfl⟩ := ihForm
    obtain ⟨rfl, rfl⟩ := ihRest
    exact ⟨rfl, rfl⟩

/-- One alternative after the other ends if each of them does. -/
theorem firstRun_alternatives {rest : Form} {ps : List Production}
    (h : ∀ p ∈ ps, g.FirstRun (.form k (p.readOn rest)) opened
      (g.firstWithin opened k (p.readOn rest)) opened) :
    g.FirstRun (.alternatives k rest ps) opened
      (g.firstOfCall opened (.alternatives k rest ps)) opened := by
  induction ps with
  | nil => exact .none
  | cons p ps ih =>
    obtain ⟨hp, hps⟩ := List.forall_mem_cons.1 h
    exact .alternative hp (ih hps)

/-- Reading a form ends, whatever is open. -/
theorem firstRun_form (opened : Opened) (k : Nat) (w : Form) :
    g.FirstRun (.form k w) opened (g.firstWithin opened k w) opened := by
  induction opened, k, w using Grammar.firstWithin.induct g with
  | case1 opened w => rw [firstWithin]; exact .zero
  | case2 opened k => rw [firstWithin]; exact .nil
  | case3 opened k t w ih => rw [firstWithin]; exact .terminal ih
  | case4 opened k a w ha => rw [firstWithin_nonterminal, if_pos ha]; exact .cycle ha
  | case5 opened k a w ha ihRest ihRight =>
    have halternatives : ∀ p ∈ g.productionsOf a, g.FirstRun (.form (k + 1) (p.readOn w))
        (opened.insert a) (g.firstWithin (opened.insert a) (k + 1) (p.readOn w))
        (opened.insert a) := by
      intro p hp
      rw [Production.readOn]
      split
      · exact ihRest
      · exact ihRight p hp
    have hrun := FirstRun.opening ha (firstRun_alternatives halternatives)
    rwa [OrderedSet.erase_insert ha, firstOfCall, ← firstWithin_of_not_mem ha] at hrun

/-- **Every call ends, in one way, and hands on what it was given.** -/
theorem firstRun_iff {c : FirstCall} :
    g.FirstRun c opened words opened' ↔ words = g.firstOfCall opened c ∧ opened' = opened := by
  refine ⟨FirstRun.eq, ?_⟩
  rintro ⟨rfl, rfl⟩
  cases c with
  | form k w => exact firstRun_form _ k w
  | alternatives k rest ps => exact firstRun_alternatives fun p _ => firstRun_form _ k _

/-! ## The words that follow a nonterminal -/

variable (g) in
/-- The words that a call is to collect while `opened` is open. -/
def followOfCall (opened : Opened) (k : Nat) : FollowCall → WordSet
  | .nonterminal a => g.followWithin opened k a
  | .productions a ps => .unionOf ps fun p =>
    if (p.after (.nonterminal a)).isEmpty then ∅
    else g.firstBefore k (p.after (.nonterminal a)) (g.followWithin opened k p.left)

theorem followWithin_of_not_mem (ha : a ∉ opened) :
    g.followWithin opened k a = g.endOfInput k a ∪
      g.followOfCall (opened.insert a) k (.productions a g.productions) := by
  rw [followWithin_eq, if_neg ha, followOfCall]

/-- A production that has nothing behind the nonterminal adds nothing. -/
theorem followOfCall_skipped {p : Production} {ps : List Production}
    (h : p.after (.nonterminal a) = []) :
    g.followOfCall opened k (.productions a (p :: ps)) =
      g.followOfCall opened k (.productions a ps) := by
  ext u
  simp [followOfCall, h]

theorem followOfCall_entered {p : Production} {ps : List Production}
    (h : p.after (.nonterminal a) ≠ []) :
    g.followOfCall opened k (.productions a (p :: ps)) =
      g.firstBefore k (p.after (.nonterminal a)) (g.followWithin opened k p.left) ∪
        g.followOfCall opened k (.productions a ps) := by
  ext u
  simp [followOfCall, h]

theorem FollowRun.eq {c : FollowCall} (h : g.FollowRun k c opened words opened') :
    words = g.followOfCall opened k c ∧ opened' = opened := by
  induction h with
  | cycle ha => exact ⟨by rw [followOfCall, followWithin_eq, if_pos ha], rfl⟩
  | opening ha _ ih =>
    obtain ⟨rfl, rfl⟩ := ih
    exact ⟨(followWithin_of_not_mem ha).symm, OrderedSet.erase_insert ha⟩
  | none => exact ⟨rfl, rfl⟩
  | skipped h _ ih =>
    obtain ⟨rfl, rfl⟩ := ih
    exact ⟨(followOfCall_skipped h).symm, rfl⟩
  | entered h _ _ ihLeft ihRest =>
    obtain ⟨rfl, rfl⟩ := ihLeft
    obtain ⟨rfl, rfl⟩ := ihRest
    exact ⟨(followOfCall_entered h).symm, rfl⟩

/-- One production after the other ends if the left sides that are entered do. -/
theorem followRun_productions {ps : List Production}
    (h : ∀ p ∈ ps, p.after (.nonterminal a) ≠ [] → g.FollowRun k (.nonterminal p.left) opened
      (g.followWithin opened k p.left) opened) :
    g.FollowRun k (.productions a ps) opened (g.followOfCall opened k (.productions a ps))
      opened := by
  induction ps with
  | nil => exact .none
  | cons p ps ih =>
    obtain ⟨hp, hps⟩ := List.forall_mem_cons.1 h
    by_cases hafter : p.after (.nonterminal a) = []
    · rw [followOfCall_skipped hafter]
      exact .skipped hafter (ih hps)
    · rw [followOfCall_entered hafter]
      exact .entered hafter (hp hafter) (ih hps)

/-- Looking for what follows a nonterminal ends, whatever is open. -/
theorem followRun_nonterminal (opened : Opened) (k : Nat) (a : Nonterminal) :
    g.FollowRun k (.nonterminal a) opened (g.followWithin opened k a) opened := by
  induction opened, a using Grammar.followWithin.induct g with
  | case1 opened a ha => rw [followWithin_eq, if_pos ha]; exact .cycle ha
  | case2 opened a ha ih =>
    have hproductions : ∀ p ∈ g.productions, p.after (.nonterminal a) ≠ [] →
        g.FollowRun k (.nonterminal p.left) (opened.insert a)
          (g.followWithin (opened.insert a) k p.left) (opened.insert a) := fun p hp hne =>
      ih p hp fun hempty => hne (List.isEmpty_iff.1 hempty)
    have hrun := FollowRun.opening ha (followRun_productions hproductions)
    rwa [OrderedSet.erase_insert ha, ← followWithin_of_not_mem ha] at hrun

/-- **Every call ends, in one way, and hands on what it was given.** -/
theorem followRun_iff {c : FollowCall} :
    g.FollowRun k c opened words opened' ↔ words = g.followOfCall opened k c ∧ opened' = opened := by
  refine ⟨FollowRun.eq, ?_⟩
  rintro ⟨rfl, rfl⟩
  cases c with
  | nonterminal a => exact followRun_nonterminal _ k a
  | productions a ps => exact followRun_productions fun p _ _ => followRun_nonterminal _ k p.left

/-! ## The walks -/

variable (g) in
theorem unopened_le_size (opened : Opened) : g.unopened opened ≤ g.nonterminals.size :=
  List.countP_le_length

/-- **The recursions end and leave no trace.** Whatever is open, the call for a form ends, and it gives
the words of the recursion that has what is open as an argument and hands on the set that it was
given; so does the call for what follows a nonterminal. Hence, when one alternative or production
after the other is taken, each adds words that depend on it and on what was open before the first of
them, and not on those that were taken before it. The walks, which may enter as many right or left
sides one inside the other as there are nonterminals, come to the same end. -/
theorem walks_traceless (g : Grammar) (k : Nat) (opened : Opened) :
    (∀ w words opened', g.FirstRun (.form k w) opened words opened' ↔
      words = g.firstWithin opened k w ∧ opened' = opened) ∧
    (∀ rest ps words opened', g.FirstRun (.alternatives k rest ps) opened words opened' ↔
      words = .unionOf ps (fun p => g.firstWithin opened k (p.readOn rest)) ∧ opened' = opened) ∧
    (∀ a words opened', g.FollowRun k (.nonterminal a) opened words opened' ↔
      words = g.followWithin opened k a ∧ opened' = opened) ∧
    (∀ a ps words opened', g.FollowRun k (.productions a ps) opened words opened' ↔
      words = .unionOf ps (fun p =>
        if (p.after (.nonterminal a)).isEmpty then ∅
        else g.firstBefore k (p.after (.nonterminal a)) (g.followWithin opened k p.left)) ∧
      opened' = opened) ∧
    (∀ w, g.firstWalk g.nonterminals.size k w opened = (g.firstWithin opened k w, opened)) ∧
    (∀ a, g.followWalk k g.nonterminals.size a opened = (g.followWithin opened k a, opened)) ∧
    (∀ w, g.FirstRun (.form k w) ∅ (g.first k w) ∅) ∧
    ∀ a, g.FollowRun k (.nonterminal a) ∅ (g.follow k a) ∅ := by
  refine ⟨fun _ _ _ => firstRun_iff, fun _ _ _ _ => firstRun_iff, fun _ _ _ => followRun_iff,
    fun _ _ _ _ => followRun_iff, fun w => yields_firstWalk (g.unopened_le_size opened),
    fun a => yields_followWalk (g.unopened_le_size opened), fun w => ?_, fun a => ?_⟩
  · rw [first_eq_firstWithin]
    exact firstRun_form ∅ k w
  · rw [follow_eq_followWithin]
    exact followRun_nonterminal ∅ k a

end Grammar

end TopDown
