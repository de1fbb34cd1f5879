import Mathlib.Logic.Relation
import TopDown.Parser.Basic

/-!
# What a stack consumes

A stack consumes an input from the top down: a terminal reads itself, and a nonterminal gives way to
a production that may be selected in front of what is unread. No guard stands in the way, and the
input may go on behind the stack. Where the table selects, these are the accepting runs of the
machine: its guard stops none of them.

* `Selection`, `Consumes`, and what the parts of a stack consume: `Consumes.append`,
  `Consumes.exists_of_append`;
* `Consumes.unique`: where one production at most may be selected, at most one consumption;
* `Table.Unfolds`, expansions one after the other; `Table.Unfolds.not_consumes`: a nonterminal that
  unfolds to itself consumes nothing;
* `Table.Tracks`, the invariant of the guard: what stands on the stack since an expansion is what
  the nonterminal has unfolded to;
* **`Table.run_eq_some_iff`**: the guarded machine accepts what the stack consumes.
-/

namespace TopDown

/-- The productions that may expand a nonterminal in front of the unread input. -/
abbrev Selection := Nonterminal → Word → Production → Prop

/-- The production that the table gives for the next `k` terminals. -/
def Table.selection (t : Table) : Selection := fun a u p => t.get? a (u.take t.k) = some p

/-- The stack consumes the beginning of an input by a list of productions and leaves the rest. -/
inductive Consumes (sel : Selection) : Form → Word → List Production → Word → Prop
  | done {u : Word} : Consumes sel [] u [] u
  | read {t : Terminal} {stack : Form} {u v : Word} {ds : List Production} :
      Consumes sel stack u ds v → Consumes sel (.terminal t :: stack) (t :: u) ds v
  | expand {a : Nonterminal} {p : Production} {stack : Form} {u v : Word} {ds : List Production} :
      sel a u p → Consumes sel (p.right ++ stack) u ds v →
      Consumes sel (.nonterminal a :: stack) u (p :: ds) v

namespace Consumes

variable {sel : Selection} {x y : Form} {u v w : Word} {ds es : List Production}

theorem nil_iff : Consumes sel [] u ds v ↔ ds = [] ∧ u = v := by
  constructor
  · intro h
    cases h with
    | done => exact ⟨rfl, rfl⟩
  · intro h
    obtain ⟨rfl, rfl⟩ := h
    exact done

theorem terminal_iff {t : Terminal} :
    Consumes sel (.terminal t :: x) u ds v ↔ ∃ u', u = t :: u' ∧ Consumes sel x u' ds v := by
  constructor
  · intro h
    cases h with
    | read h => exact ⟨_, rfl, h⟩
  · intro h
    obtain ⟨u', rfl, h⟩ := h
    exact read h

theorem nonterminal_iff {a : Nonterminal} :
    Consumes sel (.nonterminal a :: x) u ds v ↔
      ∃ p ds', ds = p :: ds' ∧ sel a u p ∧ Consumes sel (p.right ++ x) u ds' v := by
  constructor
  · intro h
    cases h with
    | expand hp h => exact ⟨_, _, rfl, hp, h⟩
  · intro h
    obtain ⟨p, ds', rfl, hp, h⟩ := h
    exact expand hp h

/-- One stack on top of another consumes first, and leaves the other the rest. -/
theorem append (hx : Consumes sel x u ds v) (hy : Consumes sel y v es w) :
    Consumes sel (x ++ y) u (ds ++ es) w := by
  induction hx with
  | done => exact hy
  | read _ ih => exact read (ih hy)
  | expand hp _ ih =>
    have h := ih hy
    rw [List.append_assoc] at h
    exact expand hp h

theorem exists_of_append (h : Consumes sel (x ++ y) u ds w) :
    ∃ ds₁ v ds₂, ds = ds₁ ++ ds₂ ∧ Consumes sel x u ds₁ v ∧ Consumes sel y v ds₂ w := by
  generalize hz : x ++ y = z at h
  induction h generalizing x with
  | done =>
    obtain ⟨rfl, rfl⟩ := List.append_eq_nil_iff.1 hz
    exact ⟨[], _, [], rfl, done, done⟩
  | read h ih =>
    cases x with
    | nil =>
      cases hz
      exact ⟨[], _, _, rfl, done, read h⟩
    | cons s x =>
      cases hz
      obtain ⟨ds₁, v, ds₂, rfl, h₁, h₂⟩ := ih rfl
      exact ⟨ds₁, v, ds₂, rfl, read h₁, h₂⟩
  | @expand a p stack u w ds hp h ih =>
    cases x with
    | nil =>
      cases hz
      exact ⟨[], _, _, rfl, done, expand hp h⟩
    | cons s x =>
      cases hz
      obtain ⟨ds₁, v, ds₂, rfl, h₁, h₂⟩ := ih (List.append_assoc p.right x y)
      exact ⟨p :: ds₁, v, ds₂, rfl, expand hp h₁, h₂⟩

/-- Terminals consume themselves. -/
theorem toForm_iff {r : Word} : Consumes sel (Word.toForm r) u ds v ↔ ds = [] ∧ u = r ++ v := by
  induction r generalizing u with
  | nil => exact nil_iff
  | cons t r ih =>
    rw [Word.toForm_cons, terminal_iff]
    constructor
    · intro h
      obtain ⟨u', rfl, h⟩ := h
      obtain ⟨rfl, rfl⟩ := ih.1 h
      exact ⟨rfl, rfl⟩
    · intro h
      obtain ⟨rfl, rfl⟩ := h
      exact ⟨r ++ v, rfl, ih.2 ⟨rfl, rfl⟩⟩

/-- **Where one production at most may be selected, a stack consumes in one way at most.** -/
theorem unique (hsel : ∀ a u p q, sel a u p → sel a u q → p = q) (h : Consumes sel x u ds v)
    (h' : Consumes sel x u es w) : ds = es ∧ v = w := by
  induction h generalizing es w with
  | done =>
    obtain ⟨rfl, rfl⟩ := nil_iff.1 h'
    exact ⟨rfl, rfl⟩
  | read _ ih =>
    obtain ⟨u', hu, h'⟩ := terminal_iff.1 h'
    cases hu
    exact ih h'
  | expand hp _ ih =>
    obtain ⟨q, es', rfl, hq, h'⟩ := nonterminal_iff.1 h'
    cases hsel _ _ _ _ hp hq
    obtain ⟨rfl, rfl⟩ := ih h'
    exact ⟨rfl, rfl⟩

end Consumes

/-! ## Unfolding -/

namespace Table

variable {t : Table} {e : Expanded} {stack x y : Form} {u v : Word} {a : Nonterminal}
  {ds : List Production}

theorem selection_unique (a : Nonterminal) (u : Word) (p q : Production)
    (hp : t.selection a u p) (hq : t.selection a u q) : p = q :=
  Option.some.inj (hp.symm.trans hq)

/-- The nonterminal on top is expanded in front of the input `u`. -/
inductive Expands (t : Table) (u : Word) : Form → Form → Prop
  | intro {a : Nonterminal} {p : Production} (below : Form) : t.selection a u p →
      Expands t u (.nonterminal a :: below) (p.right ++ below)

/-- A stack becomes another by expansions alone, one at least, and nothing is read. -/
def Unfolds (t : Table) (u : Word) : Form → Form → Prop := Relation.TransGen (t.Expands u)

/-- A stack that consumes something goes on to do so behind an expansion. -/
theorem Expands.consumes (h : t.Expands u x y) (hx : Consumes t.selection x u ds v) :
    ∃ p es, ds = p :: es ∧ Consumes t.selection y u es v := by
  cases h with
  | intro below hp =>
    obtain ⟨q, es, rfl, hq, hy⟩ := Consumes.nonterminal_iff.1 hx
    cases selection_unique _ _ _ _ hp hq
    exact ⟨_, es, rfl, hy⟩

/-- What a stack unfolds to consumes the same by fewer productions. -/
theorem Unfolds.consumes (h : t.Unfolds u x y) (hx : Consumes t.selection x u ds v) :
    ∃ es, Consumes t.selection y u es v ∧ es.length < ds.length := by
  induction h with
  | single hstep =>
    obtain ⟨p, es, rfl, hy⟩ := hstep.consumes hx
    exact ⟨es, hy, Nat.lt_succ_self _⟩
  | tail _ hstep ih =>
    obtain ⟨es, hes, hlt⟩ := ih
    obtain ⟨p, fs, rfl, hy⟩ := hstep.consumes hes
    rw [List.length_cons] at hlt
    exact ⟨fs, hy, by omega⟩

/-- **A nonterminal that unfolds to itself consumes nothing**, not even the empty word. -/
theorem Unfolds.not_consumes (h : t.Unfolds u [.nonterminal a] (.nonterminal a :: y)) :
    ¬ Consumes t.selection [.nonterminal a] u ds v := by
  intro hds
  obtain ⟨es, hes, hlt⟩ := h.consumes hds
  -- the same nonterminal in front of the same input takes the same productions
  obtain ⟨fs, w, gs, rfl, hfs, -⟩ :=
    Consumes.exists_of_append (x := [.nonterminal a]) (y := y) hes
  obtain ⟨rfl, -⟩ := hds.unique selection_unique hfs
  rw [List.length_append] at hlt
  omega

/-! ## The guard -/

/-- What the guard keeps track of: if a nonterminal counts as expanded above the part `z` of the
stack, then what stands above `z` is what it has unfolded to. -/
def Tracks (t : Table) (e : Expanded) (stack : Form) (u : Word) : Prop :=
  ∀ b y z, stack = y ++ z → e.get? b = some z.length → t.Unfolds u [.nonterminal b] y

theorem tracks_empty : t.Tracks ∅ stack u := fun _ _ _ _ h => by cases h

/-- **An expansion keeps track of what it expands.** -/
theorem Tracks.expand {p : Production} (h : t.Tracks e (.nonterminal a :: stack) u)
    (hp : t.selection a u p) : t.Tracks (e.expand a stack.length) (p.right ++ stack) u := by
  intro b y z hstack hb
  -- the part `z` lies below the expanded nonterminal, so the new symbols are all above it
  have hle : z.length ≤ stack.length := by
    rcases Expanded.get?_expand.1 hb with ⟨-, hz⟩ | ⟨-, -, hz⟩
    · omega
    · omega
  obtain ⟨y', rfl, rfl⟩ : ∃ y', y = p.right ++ y' ∧ stack = y' ++ z := by
    rcases List.append_eq_append_iff.1 hstack with ⟨y', rfl, rfl⟩ | ⟨z', hright, hz⟩
    · exact ⟨y', rfl, rfl⟩
    · have hz' : z' = [] := by
        have hlength := congrArg List.length hz
        rw [List.length_append] at hlength
        exact List.length_eq_zero_iff.1 (by omega)
      subst hz'
      exact ⟨[], by simpa using hright.symm, by simpa using hz.symm⟩
  rcases Expanded.get?_expand.1 hb with ⟨rfl, hz⟩ | ⟨-, hget, -⟩
  · have hnil : y' = [] := by
      rw [List.length_append] at hz
      exact List.length_eq_zero_iff.1 (by omega)
    subst hnil
    exact .single (.intro [] hp)
  · have hbefore : t.Unfolds u [.nonterminal b] (.nonterminal a :: y') := h b _ z rfl hget
    exact .tail hbefore (.intro y' hp)

/-- A nonterminal that the guard refuses has unfolded to itself. -/
theorem Tracks.exists_unfolds {n : Nat} (h : t.Tracks e (.nonterminal a :: stack) u)
    (hget : e.get? a = some n) (hn : n ≤ stack.length) :
    ∃ y, t.Unfolds u [.nonterminal a] (.nonterminal a :: y) := by
  have hsplit : .nonterminal a :: stack =
      (.nonterminal a :: stack.take (stack.length - n)) ++ stack.drop (stack.length - n) := by
    rw [List.cons_append, List.take_append_drop]
  have hlength : (stack.drop (stack.length - n)).length = n := by
    rw [List.length_drop]
    omega
  exact ⟨_, h a _ _ hsplit (hlength.symm ▸ hget)⟩

/-! ## The run of the machine -/

/-- **The machine accepts what its stack consumes**, by the same productions: the guard stops no run
that would end, and the runs that it stops accept nothing. -/
theorem run_eq_some_iff {input : Word} {c : Configuration} {ds : List Production}
    (h : t.Tracks e c.stack c.unread) :
    (t.run input e c).value = some ds ↔ Consumes t.selection c.stack c.unread ds [] := by
  fun_induction Table.run t input e c generalizing ds with
  | case1 e c a hg =>
    obtain ⟨stack, n, hstack, hget, hle⟩ := guard_eq_error hg
    rw [hstack] at h ⊢
    obtain ⟨y, hy⟩ := h.exists_unfolds hget hle
    refine ⟨nofun, fun hds => ?_⟩
    obtain ⟨ds₁, v, -, -, hds₁, -⟩ := Consumes.exists_of_append (x := [.nonterminal a]) hds
    exact absurd hds₁ hy.not_consumes
  | case2 e c e' hg hm =>
    rw [Table.move_eq_finished hm, Consumes.nil_iff]
    cases hu : c.unread with
    | nil => simp [eq_comm]
    | cons x u => simp
  | case3 e c e' hg d hm ih =>
    obtain ⟨x, hstack, hunread⟩ := Table.move_eq_matched hm
    rw [hstack] at hg
    cases hg
    rw [ih tracks_empty, hstack, hunread, Consumes.terminal_iff]
    simp
  | case4 e c e' hg a w p d hm ih =>
    obtain ⟨stack, hstack, rfl, hp, rfl⟩ := Table.move_eq_expanded hm
    rw [hstack] at h hg ⊢
    obtain ⟨-, rfl⟩ := guard_eq_ok hg
    rw [Consumes.nonterminal_iff, Logged.value_bind, Logged.value_map, Option.map_eq_some_iff]
    simp only [ih (h.expand hp)]
    constructor
    · intro hsome
      obtain ⟨ds, hds, rfl⟩ := hsome
      exact ⟨p, ds, rfl, hp, hds⟩
    · intro hsome
      obtain ⟨q, ds, rfl, hq, hds⟩ := hsome
      have hpq : p = q := selection_unique _ _ _ _ hp hq
      exact ⟨ds, hpq ▸ hds, hpq ▸ rfl⟩
  | case5 e c e' hg x hm =>
    obtain ⟨stack, hstack, hne⟩ := Table.move_eq_unexpected hm
    rw [hstack, Consumes.terminal_iff]
    refine ⟨nofun, fun hread => ?_⟩
    obtain ⟨u', hu, -⟩ := hread
    have hhead : c.unread.head? = some x := by rw [hu, List.head?_cons]
    exact absurd hhead hne
  | case6 e c e' hg a w hm =>
    obtain ⟨stack, hstack, rfl, hnone⟩ := Table.move_eq_noEntry hm
    rw [hstack, Consumes.nonterminal_iff]
    refine ⟨nofun, fun hexpand => ?_⟩
    obtain ⟨p, -, -, hp, -⟩ := hexpand
    unfold Table.selection at hp
    rw [hnone] at hp
    cases hp

end Table

end TopDown
