import TopDown.Proofs.Consumption
import TopDown.Proofs.Samples
import TopDown.Table

/-!
# What the guard stops

The guard stops the machine where a nonterminal comes up inside its own expansion before anything is
read. The machine without it would unfold the nonterminal to itself again and again; and a run that
the guard does not stop goes as it would without it, to the same end.

* `Table.runUnguarded`, `Parser.deriveUnguarded`: so many moves of the machine without its guard;
* `Table.runUnguarded_of_unfolds_self`: where a nonterminal unfolds to itself there is no end;
* `Table.exists_runUnguarded`: a run that the guard does not stop;
* `Table.Tracks.of_refused`: a run that it stops;
* **`Parser.derive_unguarded`**.
-/

namespace TopDown

/-! ## The machine without its guard -/

/-- What the machine comes to within a number of moves if no guard stops it, if it has come to an
end by then. -/
def Table.runUnguarded (t : Table) (input : Word) : (moves : Nat) → Configuration →
    Option (Logged (Option (List Production)))
  | 0, _ => none
  | moves + 1, c =>
    match t.move c with
    | .finished => some (return if c.unread.isEmpty then some [] else none)
    | .matched d => t.runUnguarded input moves d
    | .expanded a w p d =>
      (t.runUnguarded input moves d).map fun rest => do
        Logged.tell (.expanded a w p)
        (·.map (p :: ·)) <$> rest
    | .unexpected x => some do
      Logged.tell (.unexpected x (c.position input))
      return none
    | .noEntry a w => some do
      Logged.tell (.noEntry a w)
      return none

/-- What a text is derived to within a number of moves if no guard stops the machine. -/
def Parser.deriveUnguarded (P : Parser) (moves : Nat) (text : String) :
    Option (Logged (Option (List Production))) :=
  match P.readInput text.toList with
  | .error c => some do
    Logged.tell (.foreignCharacter c)
    return none
  | .ok word =>
    let input := word ++ P.padding
    P.table.runUnguarded input moves (P.initial input)

namespace Table

variable {t : Table} {input u : Word} {c : Configuration} {a : Nonterminal} {x y : Form}
  {r : Logged (Option (List Production))} {m n : Nat}

/-- An end that is reached is reached with more moves too. -/
theorem runUnguarded_succ (h : t.runUnguarded input n c = some r) :
    t.runUnguarded input (n + 1) c = some r := by
  induction n generalizing c r with
  | zero => cases h
  | succ n ih =>
    rw [runUnguarded] at h ⊢
    match hm : t.move c with
    | .finished => rw [hm] at h; exact h
    | .matched d => rw [hm] at h; exact ih h
    | .expanded b w p d =>
      rw [hm] at h
      obtain ⟨rest, hrest, hr⟩ := Option.map_eq_some_iff.1 h
      exact Option.map_eq_some_iff.2 ⟨rest, ih hrest, hr⟩
    | .unexpected z => rw [hm] at h; exact h
    | .noEntry b w => rw [hm] at h; exact h

theorem runUnguarded_mono (h : t.runUnguarded input m c = some r) (hle : m ≤ n) :
    t.runUnguarded input n c = some r := by
  induction hle with
  | refl => exact h
  | step _ ih => exact runUnguarded_succ ih

/-! ## Unfolding for ever -/

theorem move_of_selection {p : Production} (hp : t.selection a u p) :
    t.move ⟨.nonterminal a :: x, u⟩ = .expanded a (u.take t.k) p ⟨p.right ++ x, u⟩ := by
  have hget : t.get? a (u.take t.k) = some p := hp
  simp only [move, hget]

/-- Behind an expansion, on top of any stack, one move less is left. -/
theorem Expands.runUnguarded_eq_none (h : t.Expands u x y) {below : Form}
    (hy : t.runUnguarded input n ⟨y ++ below, u⟩ = none) :
    t.runUnguarded input (n + 1) ⟨x ++ below, u⟩ = none := by
  cases h with
  | intro z hp =>
    rw [List.append_assoc] at hy
    rw [runUnguarded, List.cons_append, move_of_selection hp]
    simp only [hy, Option.map_none]

/-- Where a stack unfolds to another, fewer moves are left for that one. -/
theorem Unfolds.runUnguarded_eq_none (h : t.Unfolds u x y) {below : Form}
    (hy : ∀ m < n, t.runUnguarded input m ⟨y ++ below, u⟩ = none) :
    t.runUnguarded input n ⟨x ++ below, u⟩ = none := by
  induction h using Relation.TransGen.head_induction_on generalizing n with
  | single hstep =>
    cases n with
    | zero => rfl
    | succ n => exact hstep.runUnguarded_eq_none (hy n (Nat.lt_succ_self n))
  | head hstep _ ih =>
    cases n with
    | zero => rfl
    | succ n => exact hstep.runUnguarded_eq_none (ih fun m hm => hy m (Nat.lt_succ_of_lt hm))

/-- **A nonterminal that unfolds to itself keeps the machine busy for ever.** -/
theorem runUnguarded_of_unfolds_self (h : t.Unfolds u [.nonterminal a] (.nonterminal a :: y))
    (below : Form) : t.runUnguarded input n ⟨.nonterminal a :: below, u⟩ = none := by
  induction n using Nat.strongRecOn generalizing below with
  | ind n ih =>
    have hcycle : ∀ m < n, t.runUnguarded input m ⟨.nonterminal a :: y ++ below, u⟩ = none :=
      fun m hm => ih m hm (y ++ below)
    exact h.runUnguarded_eq_none (x := [.nonterminal a]) hcycle

/-! ## Runs under the guard -/

theorem run_of_refused {e : Expanded} (h : guard e c.stack = .error a) :
    t.run input e c = ⟨[.leftRecursion a (c.position input)], none⟩ := by
  rw [run]
  split
  · rename_i b hb
    rw [h] at hb
    cases hb
    rfl
  · rename_i e' he
    rw [h] at he
    cases he

/-- Where the guard lets the machine go on, the run goes by its move. -/
theorem run_of_admitted {e e' : Expanded} (h : guard e c.stack = .ok e') :
    t.run input e c =
      match t.move c with
      | .finished => return if c.unread.isEmpty then some [] else none
      | .matched d => t.run input e' d
      | .expanded a w p d => do
        Logged.tell (.expanded a w p)
        (·.map (p :: ·)) <$> t.run input e' d
      | .unexpected x => do
        Logged.tell (.unexpected x (c.position input))
        return none
      | .noEntry a w => do
        Logged.tell (.noEntry a w)
        return none := by
  rw [run]
  split
  · rename_i b hb
    rw [h] at hb
    cases hb
  · rename_i e'' he
    rw [h] at he
    cases he
    split <;> rename_i hm <;> rw [hm]

theorem run_of_matched {e e' : Expanded} {d : Configuration} (hg : guard e c.stack = .ok e')
    (hm : t.move c = .matched d) : t.run input e c = t.run input e' d := by
  rw [run_of_admitted hg, hm]

theorem run_of_expanded {e e' : Expanded} {w : Word} {p : Production} {d : Configuration}
    (hg : guard e c.stack = .ok e') (hm : t.move c = .expanded a w p d) :
    t.run input e c = ⟨.expanded a w p :: (t.run input e' d).log,
      (t.run input e' d).value.map (p :: ·)⟩ := by
  rw [run_of_admitted hg, hm]
  rfl

/-- **A run that the guard does not stop is a run without it.** -/
theorem exists_runUnguarded {e : Expanded}
    (h : ∀ a i, .leftRecursion a i ∉ (t.run input e c).log) :
    ∃ n, t.runUnguarded input n c = some (t.run input e c) := by
  fun_induction Table.run t input e c with
  | case1 e c a hg => exact absurd (List.mem_singleton.2 rfl) (h a _)
  | case2 e c e' hg hm => exact ⟨1, by rw [runUnguarded, hm]⟩
  | case3 e c e' hg d hm ih =>
    obtain ⟨n, hn⟩ := ih h
    exact ⟨n + 1, by rw [runUnguarded, hm]; exact hn⟩
  | case4 e c e' hg b w p d hm ih =>
    obtain ⟨n, hn⟩ := ih fun a i ha => h a i (List.mem_cons_of_mem _ ha)
    exact ⟨n + 1, by rw [runUnguarded, hm]; simp only [hn, Option.map_some]⟩
  | case5 e c e' hg z hm => exact ⟨1, by rw [runUnguarded, hm]⟩
  | case6 e c e' hg b w hm => exact ⟨1, by rw [runUnguarded, hm]⟩

/-- **A run that the guard stops would never end without it**: at the position where it stops, the
nonterminal unfolds to itself. -/
theorem Tracks.of_refused {e : Expanded} {i : Nat} (h : t.Tracks e c.stack c.unread)
    (hsuffix : c.unread <:+ input) (hrefused : .leftRecursion a i ∈ (t.run input e c).log) :
    (∀ n, t.runUnguarded input n c = none) ∧
      ∃ y, t.Unfolds (input.drop i) [.nonterminal a] (.nonterminal a :: y) := by
  fun_induction Table.run t input e c with
  | case1 e c b hg =>
    obtain ⟨below, n, hstack, hget, hle⟩ := guard_eq_error hg
    rw [hstack] at h
    obtain ⟨y, hy⟩ := h.exists_unfolds hget hle
    cases List.mem_singleton.1 hrefused
    have hposition : input.drop (c.position input) = c.unread :=
      (List.suffix_iff_eq_drop.1 hsuffix).symm
    have hc : c = ⟨.nonterminal a :: below, c.unread⟩ := by rw [← hstack]
    rw [hposition]
    exact ⟨fun n => hc ▸ runUnguarded_of_unfolds_self hy below, y, hy⟩
  | case2 e c e' hg hm => cases hrefused
  | case3 e c e' hg d hm ih =>
    obtain ⟨z, hstack, hunread⟩ := Table.move_eq_matched hm
    rw [hstack] at hg
    cases hg
    have hd : d.unread <:+ input := .trans (hunread ▸ List.suffix_cons z d.unread) hsuffix
    obtain ⟨hnone, hy⟩ := ih tracks_empty hd hrefused
    refine ⟨fun n => ?_, hy⟩
    cases n with
    | zero => rfl
    | succ n => rw [runUnguarded, hm]; exact hnone n
  | case4 e c e' hg b w p d hm ih =>
    obtain ⟨below, hstack, rfl, hp, rfl⟩ := Table.move_eq_expanded hm
    rw [hstack] at h hg
    obtain ⟨-, rfl⟩ := guard_eq_ok hg
    have hlater := (List.mem_cons.1 hrefused).resolve_left Event.noConfusion
    obtain ⟨hnone, hy⟩ := ih (h.expand hp) hsuffix hlater
    refine ⟨fun n => ?_, hy⟩
    cases n with
    | zero => rfl
    | succ n => rw [runUnguarded, hm]; simp only [hnone n, Option.map_none]
  | case5 e c e' hg z hm => cases List.mem_singleton.1 hrefused
  | case6 e c e' hg b w hm => cases List.mem_singleton.1 hrefused

end Table

/-! ## The parser -/

namespace Parser

variable {P : Parser} {text : String}

/-- **The guard stops exactly the runs that would never end.** Where it stops a derivation, the
machine without it comes to no end in any number of moves; where it does not, the machine without it
comes to the same end with the same log, so a text is rejected at the same point. The guard stops at
a nonterminal that unfolds to itself at the position, and at none that has consumed anything from
there, be it the empty word: one that is expanded again after it has derived nothing is let through. -/
theorem derive_unguarded (P : Parser) (text : String) :
    ((∃ a i, .leftRecursion a i ∈ (P.derive text).log) →
      ∀ moves, P.deriveUnguarded moves text = none) ∧
    ((¬ ∃ a i, .leftRecursion a i ∈ (P.derive text).log) →
      ∃ enough, ∀ moves, enough ≤ moves →
        P.deriveUnguarded moves text = some (P.derive text)) ∧
    ∀ a i, .leftRecursion a i ∈ (P.derive text).log →
      ∃ w, P.readInput text.toList = .ok w ∧
        (∃ y, P.table.Unfolds ((w ++ P.padding).drop i) [.nonterminal a] (.nonterminal a :: y)) ∧
        ∀ ds v, ¬ Consumes P.table.selection [.nonterminal a] ((w ++ P.padding).drop i) ds v := by
  unfold derive deriveUnguarded
  match hread : P.readInput text.toList with
  | .error c =>
    have hlog : ∀ a i, Event.leftRecursion a i ∉ [Event.foreignCharacter c] := by simp
    refine ⟨fun ⟨a, i, h⟩ => absurd h (hlog a i), fun _ => ⟨0, fun _ _ => rfl⟩, ?_⟩
    exact fun a i h => absurd h (hlog a i)
  | .ok w =>
    have hstart : (P.initial (w ++ P.padding)).unread <:+ w ++ P.padding := List.suffix_refl _
    have hrefused : ∀ {a i},
        .leftRecursion a i ∈ (P.table.run (w ++ P.padding) ∅ (P.initial (w ++ P.padding))).log → _ :=
      fun h => Table.tracks_empty.of_refused hstart h
    refine ⟨fun ⟨a, i, h⟩ => (hrefused h).1, fun h => ?_, fun a i h => ?_⟩
    · obtain ⟨n, hn⟩ := Table.exists_runUnguarded fun a i ha => h ⟨a, i, ha⟩
      exact ⟨n, fun moves hle => Table.runUnguarded_mono hn hle⟩
    · obtain ⟨y, hy⟩ := (hrefused h).2
      exact ⟨w, rfl, ⟨y, hy⟩, fun ds v => hy.not_consumes⟩

open Sample in
theorem derive_unguarded_samples :
    (.leftRecursion A 0 ∈
        ((⟨leftRecursive, (leftRecursive.tabulate 0).value⟩ : Parser).derive "b").log ∧
      ∀ moves, (⟨leftRecursive, (leftRecursive.tabulate 0).value⟩ : Parser).deriveUnguarded
        moves "b" = none) ∧
    ((repeatedLambda.tabulate 0).value.get? A [] = some ⟨A, []⟩ ∧
      ((⟨repeatedLambda, (repeatedLambda.tabulate 0).value⟩ : Parser).derive "b").value =
        some [⟨S, [.nonterminal A, .nonterminal A, .terminal b]⟩, ⟨A, []⟩, ⟨A, []⟩] ∧
      (¬ ∃ a i, .leftRecursion a i ∈
        ((⟨repeatedLambda, (repeatedLambda.tabulate 0).value⟩ : Parser).derive "b").log) ∧
      ∃ enough, ∀ moves, enough ≤ moves →
        (⟨repeatedLambda, (repeatedLambda.tabulate 0).value⟩ : Parser).deriveUnguarded moves "b" =
          some ((⟨repeatedLambda, (repeatedLambda.tabulate 0).value⟩ : Parser).derive "b")) := by
  have hstopped : .leftRecursion A 0 ∈
      ((⟨leftRecursive, (leftRecursive.tabulate 0).value⟩ : Parser).derive "b").log := by
    have hrun : (⟨leftRecursive, (leftRecursive.tabulate 0).value⟩ : Parser).derive "b" =
        (leftRecursive.tabulate 0).value.run [b] ∅ ⟨[.nonterminal S], [b]⟩ := rfl
    rw [hrun, Table.run_of_expanded (d := ⟨[.nonterminal A], [b]⟩) rfl rfl,
      Table.run_of_expanded (d := ⟨[.nonterminal A, .terminal b], [b]⟩) rfl rfl,
      Table.run_of_refused (a := A) rfl]
    exact List.mem_cons_of_mem _ (List.mem_cons_of_mem _ List.mem_cons_self)
  have hends : ∀ n, (⟨repeatedLambda, (repeatedLambda.tabulate 0).value⟩ : Parser).deriveUnguarded
      (n + 5) "b" = some ⟨[.expanded S [] ⟨S, [.nonterminal A, .nonterminal A, .terminal b]⟩,
        .expanded A [] ⟨A, []⟩, .expanded A [] ⟨A, []⟩],
        some [⟨S, [.nonterminal A, .nonterminal A, .terminal b]⟩, ⟨A, []⟩, ⟨A, []⟩]⟩ := fun _ => rfl
  obtain ⟨hloops, hsame, -⟩ :=
    derive_unguarded ⟨repeatedLambda, (repeatedLambda.tabulate 0).value⟩ "b"
  have hlet : ¬ ∃ a i, .leftRecursion a i ∈
      ((⟨repeatedLambda, (repeatedLambda.tabulate 0).value⟩ : Parser).derive "b").log := by
    intro hstop
    have hnone := hloops hstop 5
    rw [hends 0] at hnone
    cases hnone
  obtain ⟨enough, henough⟩ := hsame hlet
  have hderive := Option.some.inj
    ((hends enough).symm.trans (henough (enough + 5) (Nat.le_add_right _ _)))
  refine ⟨⟨hstopped, (derive_unguarded _ "b").1 ⟨A, 0, hstopped⟩⟩, by decide +kernel, ?_, hlet,
    hsame hlet⟩
  rw [← hderive]

end Parser

end TopDown
