import Mathlib.Data.List.TakeWhile
import TopDown.Text.Blank

/-!
# Items of a text

A text is taken apart at separators, and the blanks around its parts do not count. What a separator
with blanks around it joins is found again as long as it holds no separator and no blank at its ends.

* `takeWhile_dropWhile_append`, `of_mem_head?_dropWhile`: what stands in front of the first character
  without a property, and the rest;
* `trim_eq_self`: a text without blanks at its ends stays as it is; `trim_append`: blanks at the ends
  do not matter;
* `intercalate_concat`: all but the last of the joined parts have a separator behind them;
  `mem_of_mem_intercalate`, `map_intercalate`; `splitOn_append`, `splitOn_flatMap_append`;
* `items`: what stands between the separators without the blanks around it; **`items_intercalate`**.
-/

namespace TopDown

/-! ## In front of a character and behind it -/

section Prefixes

variable {α : Type} {p : α → Bool} {l s : List α}

/-- A condition on the first member, by its index. -/
theorem not_getElem_zero (h : ∀ a ∈ l.head?, p a = false) (hl : 0 < l.length) :
    ¬ p l[0] = true := by
  have hhead : l[0] ∈ l.head? := by
    rw [List.head?_eq_getElem?]
    exact List.getElem?_eq_getElem hl
  exact Bool.eq_false_iff.1 (h _ hhead)

/-- What stands in front of the first member without a property, and the rest. -/
theorem takeWhile_dropWhile_append (hl : ∀ a ∈ l, p a = true) (hs : ∀ a ∈ s.head?, p a = false) :
    (l ++ s).takeWhile p = l ∧ (l ++ s).dropWhile p = s := by
  rw [List.takeWhile_append_of_pos hl, List.takeWhile_eq_nil_iff.2 (not_getElem_zero hs),
    List.append_nil, List.dropWhile_append_of_pos hl,
    List.dropWhile_eq_self_iff.2 (not_getElem_zero hs)]
  exact ⟨rfl, rfl⟩

theorem of_mem_head?_dropWhile : ∀ a ∈ (s.dropWhile p).head?, p a = false := by
  intro a ha
  have h := List.head?_dropWhile_not p s
  rw [Option.mem_def] at ha
  rw [ha] at h
  exact h

end Prefixes

/-! ## Blanks at the ends -/

/-- A text without blanks at its ends stays as it is. -/
theorem trim_eq_self {s : List Char} (hhead : ∀ c ∈ s.head?, isBlank c = false)
    (hlast : ∀ c ∈ s.getLast?, isBlank c = false) : trim s = s := by
  have hreverse : ∀ c ∈ s.reverse.head?, isBlank c = false := by
    rw [List.head?_reverse]
    exact hlast
  rw [trim, List.dropWhile_eq_self_iff.2 (not_getElem_zero hhead),
    List.dropWhile_eq_self_iff.2 (not_getElem_zero hreverse), List.reverse_reverse]

/-- A text without blanks stays as it is. -/
theorem trim_of_forall {s : List Char} (h : ∀ c ∈ s, isBlank c = false) : trim s = s :=
  trim_eq_self (fun c hc => h c (List.mem_of_head? hc)) fun c hc => h c (List.mem_of_getLast? hc)

/-- Blanks at the ends of a text do not matter. -/
theorem trim_append {before s after : List Char} (hbefore : ∀ c ∈ before, isBlank c = true)
    (hafter : ∀ c ∈ after, isBlank c = true) : trim (before ++ s ++ after) = trim s := by
  have hreverse : ∀ c ∈ after.reverse, isBlank c = true := fun c hc =>
    hafter c (List.mem_reverse.1 hc)
  unfold trim
  rw [List.append_assoc, List.dropWhile_append_of_pos hbefore, List.dropWhile_append]
  by_cases hs : s.dropWhile isBlank = []
  · -- nothing is left but the blanks behind the text
    have hnil : (after ++ []).dropWhile isBlank = [] := List.dropWhile_append_of_pos hafter
    rw [List.append_nil] at hnil
    simp [hs, hnil]
  · rw [if_neg (by simpa using hs), List.reverse_append, List.dropWhile_append_of_pos hreverse]

/-- A text of blanks is trimmed to nothing. -/
theorem trim_eq_nil {s : List Char} (h : ∀ c ∈ s, isBlank c = true) : trim s = [] := by
  have htrim := @trim_append s [] [] h nofun
  rwa [List.append_nil, List.append_nil] at htrim

/-- A character that is not blank stays in front. -/
theorem head?_trim_cons {c : Char} (hc : isBlank c = false) (s : List Char) :
    (trim (c :: s)).head? = some c := by
  have hneg : ¬ isBlank c = true := Bool.eq_false_iff.1 hc
  rw [trim, List.dropWhile_cons_of_neg hneg, List.reverse_cons, List.dropWhile_append]
  split
  · rw [List.dropWhile_cons_of_neg hneg]
    rfl
  · rw [List.reverse_append]
    rfl

/-! ## Joined parts -/

section Joined

variable {α : Type}

/-- Parts that are joined, the last one apart, have a separator each behind them. -/
theorem intercalate_concat (separator : List α) (ls : List (List α)) (l : List α) :
    separator.intercalate (ls ++ [l]) = ls.flatMap (· ++ separator) ++ l := by
  induction ls with
  | nil => exact List.intercalate_singleton
  | cons l' ls ih =>
    obtain ⟨m, ms, hms⟩ : ∃ m ms, ls ++ [l] = m :: ms := by
      cases ls with
      | nil => exact ⟨l, [], rfl⟩
      | cons m ms => exact ⟨m, ms ++ [l], rfl⟩
    rw [List.cons_append, hms, List.intercalate_cons_cons, ← hms, ih, List.flatMap_cons]
    simp only [List.append_assoc]

theorem intercalate_append_separator (separator : List α) {ls : List (List α)}
    (hne : ls ≠ []) : separator.intercalate ls ++ separator = ls.flatMap (· ++ separator) := by
  rcases List.eq_nil_or_concat ls with rfl | ⟨ls, l, rfl⟩
  · exact absurd rfl hne
  · rw [List.concat_eq_append, intercalate_concat]
    simp

/-- What is joined consists of the parts and the separators. -/
theorem mem_of_mem_intercalate {a : α} {separator : List α} {ls : List (List α)}
    (h : a ∈ separator.intercalate ls) : a ∈ separator ∨ ∃ l ∈ ls, a ∈ l := by
  induction ls with
  | nil => cases h
  | cons l ls ih =>
    cases ls with
    | nil =>
      rw [List.intercalate_singleton] at h
      exact .inr ⟨l, List.mem_singleton_self l, h⟩
    | cons l' ls =>
      rw [List.intercalate_cons_cons, List.append_assoc, List.mem_append, List.mem_append] at h
      rcases h with h | h | h
      · exact .inr ⟨l, List.mem_cons_self, h⟩
      · exact .inl h
      · exact (ih h).imp_right fun ⟨m, hm, ha⟩ => ⟨m, List.mem_cons_of_mem _ hm, ha⟩

end Joined

/-! ## Parts between separators -/

section Separated

variable {α : Type} [BEq α] [LawfulBEq α] {separator : α} {l s : List α}

/-- What stands in front of a text without a separator belongs to its first part. -/
theorem splitOn_append (hl : separator ∉ l) :
    (l ++ s).splitOn separator = (s.splitOn separator).modifyHead (l ++ ·) := by
  induction l with
  | nil =>
    have hid : (s.splitOn separator).modifyHead id = s.splitOn separator := by
      rw [List.modifyHead_id, id]
    exact hid.symm
  | cons a l ih =>
    rw [List.mem_cons, not_or] at hl
    have hne : ¬ (a == separator) = true := fun h => hl.1 (eq_of_beq h).symm
    rw [List.cons_append, List.splitOn_cons_eq_if_modifyHead, if_neg hne, ih hl.2,
      List.modifyHead_modifyHead]
    rfl

/-- Parts that have a separator each behind them are found again, and what stands behind the last. -/
theorem splitOn_flatMap_append {ls : List (List α)} (hls : ∀ l ∈ ls, separator ∉ l)
    (hl : separator ∉ l) :
    (ls.flatMap (· ++ [separator]) ++ l).splitOn separator = ls ++ [l] := by
  have hmem : ∀ m ∈ ls ++ [l], separator ∉ m := by
    intro m hm
    rcases List.mem_append.1 hm with hm | hm
    · exact hls m hm
    · rwa [List.mem_singleton.1 hm]
  rw [← intercalate_concat]
  exact List.splitOn_intercalate separator hmem (by simp)

end Separated

/-! ## Items -/

/-- What stands between the separators of a text, without the blanks around it. -/
def items (separator : Char) (s : List Char) : List (List Char) := (s.splitOn separator).map trim

section Items

variable {separator : Char} {before after : List Char}

theorem not_mem_blanks (hsep : isBlank separator = false) (hbefore : ∀ c ∈ before, isBlank c = true) :
    separator ∉ before := by
  intro h
  rw [hbefore separator h] at hsep
  cases hsep

/-- Blanks in front of a text do not matter. -/
theorem items_append (hsep : isBlank separator = false) (hbefore : ∀ c ∈ before, isBlank c = true)
    (s : List Char) : items separator (before ++ s) = items separator s := by
  have hmem : separator ∉ before := not_mem_blanks hsep hbefore
  obtain ⟨first, rest, hs⟩ := List.exists_cons_of_ne_nil (List.splitOn_ne_nil separator s)
  have htrim : trim (before ++ first ++ []) = trim first := trim_append hbefore nofun
  rw [List.append_nil] at htrim
  rw [items, items, splitOn_append hmem, hs, List.modifyHead_cons, List.map_cons, List.map_cons,
    htrim]

variable (before after) in
/-- **Items that are joined are read back**, but for the blanks around them. -/
theorem items_intercalate (hsep : isBlank separator = false)
    (hbefore : ∀ c ∈ before, isBlank c = true) (hafter : ∀ c ∈ after, isBlank c = true)
    {ls : List (List Char)} (hne : ls ≠ []) (h : ∀ l ∈ ls, separator ∉ l) :
    items separator ((before ++ separator :: after).intercalate ls) = ls.map trim := by
  have hmem : separator ∉ before := not_mem_blanks hsep hbefore
  induction ls with
  | nil => exact absurd rfl hne
  | cons l ls ih =>
    obtain ⟨hl, hls⟩ := List.forall_mem_cons.1 h
    cases ls with
    | nil => rw [List.intercalate_singleton, items, List.splitOn_eq_singleton hl]
    | cons l' ls =>
      have hfirst : trim (l ++ before) = trim l := by
        have hbehind : trim ([] ++ l ++ before) = trim l := trim_append nofun hbefore
        rwa [List.nil_append] at hbehind
      have hjoined : (before ++ separator :: after).intercalate (l :: l' :: ls) =
          (l ++ before) ++ separator ::
            (after ++ (before ++ separator :: after).intercalate (l' :: ls)) := by
        rw [List.intercalate_cons_cons]
        simp only [List.append_assoc, List.cons_append]
      have hnot : separator ∉ l ++ before := List.not_mem_append hl hmem
      rw [hjoined, items, List.splitOn_append_cons_self_of_not_mem hnot, List.map_cons,
        hfirst, ← items, items_append hsep hafter, ih nofun hls]
      rfl

/-- Items without blanks at their ends stay as they are. -/
theorem map_trim_eq_self {ls : List (List Char)} (h : ∀ l ∈ ls, trim l = l) : ls.map trim = ls :=
  (List.map_congr_left h).trans (List.map_id ls)

end Items

end TopDown
