import TopDown.Ordered.Basic

/-!
# Finite sets in canonical order

A set is the strictly increasing list of its members, so a set has one representation and is shown
in canonical order as it stands.

* `OrderedSet`, `OrderedSet.ext`: sets with the same members are equal;
* `insert`, `union`, `erase`, `ofList`, `disjoint`, `flatMap`, `image`, each with its membership
  lemma; `image_union`, `image_insert`, `flatMap_image`.
-/

namespace TopDown

/-- A finite set: its members in increasing order. -/
structure OrderedSet (α : Type) [CanonicalOrder α] where
  toList : List α
  sorted : toList.Pairwise (· < ·)

namespace OrderedSet

variable {α β : Type} [CanonicalOrder α] [CanonicalOrder β]

instance : Membership α (OrderedSet α) := ⟨fun s a => a ∈ s.toList⟩

theorem pairwise_nil : ([] : List α).Pairwise (· < ·) := .nil

instance : EmptyCollection (OrderedSet α) := ⟨⟨[], pairwise_nil⟩⟩

instance : Singleton α (OrderedSet α) := ⟨fun a => ⟨[a], List.pairwise_singleton _ a⟩⟩

instance : Inhabited (OrderedSet α) := ⟨∅⟩

instance [DecidableEq α] (a : α) (s : OrderedSet α) : Decidable (a ∈ s) :=
  inferInstanceAs (Decidable (a ∈ s.toList))

instance [DecidableEq α] : DecidableEq (OrderedSet α) := fun s t =>
  decidable_of_iff (s.toList = t.toList)
    ⟨fun h => by cases s; cases t; simp_all, fun h => h ▸ rfl⟩

theorem mem_toList {a : α} {s : OrderedSet α} : a ∈ s.toList ↔ a ∈ s := Iff.rfl

@[simp] theorem toList_empty : (∅ : OrderedSet α).toList = [] := rfl

@[simp] theorem toList_singleton (a : α) : ({a} : OrderedSet α).toList = [a] := rfl

@[simp] theorem not_mem_empty (a : α) : a ∉ (∅ : OrderedSet α) := List.not_mem_nil

@[simp] theorem mem_singleton {a b : α} : a ∈ ({b} : OrderedSet α) ↔ a = b := List.mem_singleton

theorem eq_of_toList {s t : OrderedSet α} (h : s.toList = t.toList) : s = t := by
  cases s; cases t; cases h; rfl

theorem nodup (s : OrderedSet α) : s.toList.Nodup := s.sorted.imp CanonicalOrder.ne_of_lt

/-- **Sets with the same members are equal.** -/
@[ext] theorem ext {s t : OrderedSet α} (h : ∀ a, a ∈ s ↔ a ∈ t) : s = t := by
  have hperm : s.toList.Perm t.toList := (List.perm_ext_iff_of_nodup s.nodup t.nodup).2 h
  refine eq_of_toList (hperm.eq_of_pairwise (fun a b _ _ hab hba => ?_) s.sorted t.sorted)
  exact absurd hba (CanonicalOrder.asymm hab)

/-! ## Insertion -/

/-- Put `a` into its place in an increasing list. -/
def insertSorted (a : α) : List α → List α
  | [] => [a]
  | b :: l => if a < b then a :: b :: l else if b < a then b :: insertSorted a l else b :: l

@[simp] theorem mem_insertSorted {a b : α} {l : List α} :
    b ∈ insertSorted a l ↔ b = a ∨ b ∈ l := by
  induction l with
  | nil => simp [insertSorted]
  | cons c l ih =>
    rw [insertSorted]
    split
    · simp
    split
    · simp only [List.mem_cons, ih]; exact or_left_comm
    · rename_i h h'
      have : a = c := CanonicalOrder.eq_of_not_lt h h'
      subst this; simp

theorem pairwise_insertSorted {a : α} {l : List α} (h : l.Pairwise (· < ·)) :
    (insertSorted a l).Pairwise (· < ·) := by
  induction l with
  | nil => exact List.pairwise_singleton _ _
  | cons b l ih =>
    obtain ⟨hb, hl⟩ := List.pairwise_cons.1 h
    rw [insertSorted]
    split
    · rename_i hab
      refine List.pairwise_cons.2 ⟨fun c hc => ?_, h⟩
      rcases List.mem_cons.1 hc with rfl | hc
      · exact hab
      · exact CanonicalOrder.trans hab (hb c hc)
    split
    · rename_i hba
      refine List.pairwise_cons.2 ⟨fun c hc => ?_, ih hl⟩
      rcases mem_insertSorted.1 hc with rfl | hc
      · exact hba
      · exact hb c hc
    · exact h

/-- The set with `a` added. -/
def insert (a : α) (s : OrderedSet α) : OrderedSet α :=
  ⟨insertSorted a s.toList, pairwise_insertSorted s.sorted⟩

@[simp] theorem mem_insert {a b : α} {s : OrderedSet α} : b ∈ s.insert a ↔ b = a ∨ b ∈ s :=
  mem_insertSorted

/-- The set of the members of a list. -/
def ofList (l : List α) : OrderedSet α := l.foldr insert ∅

@[simp] theorem mem_ofList {a : α} {l : List α} : a ∈ ofList l ↔ a ∈ l := by
  induction l with
  | nil => simp [ofList]
  | cons b l ih => simp only [ofList, List.foldr_cons, mem_insert, List.mem_cons] at ih ⊢; rw [ih]

@[simp] theorem ofList_nil : ofList ([] : List α) = ∅ := rfl

/-- Reading back the list of a set gives the set. -/
@[simp] theorem ofList_toList (s : OrderedSet α) : ofList s.toList = s := by
  ext a; exact mem_ofList

/-! ## Union, removal, size -/

/-- The members of two increasing lists in increasing order. -/
def mergeSorted : List α → List α → List α
  | [], m => m
  | a :: l, m => m.takeWhile (· < a) ++ a :: mergeSorted l (m.dropWhile (¬ a < ·))

theorem lt_of_mem_dropWhile {a b : α} {m : List α} (hm : m.Pairwise (· < ·))
    (hb : b ∈ m.dropWhile (¬ a < ·)) : a < b := by
  induction m with
  | nil => exact absurd hb List.not_mem_nil
  | cons c m ih =>
    obtain ⟨hc, hm⟩ := List.pairwise_cons.1 hm
    rw [List.dropWhile_cons] at hb
    split at hb
    · exact ih hm hb
    · rename_i h
      have hac : a < c := by simpa using h
      rcases List.mem_cons.1 hb with rfl | hb
      · exact hac
      · exact CanonicalOrder.trans hac (hc b hb)

theorem lt_of_mem_takeWhile {a b : α} {m : List α} (hb : b ∈ m.takeWhile (· < a)) : b < a := by
  induction m with
  | nil => exact absurd hb List.not_mem_nil
  | cons c m ih =>
    rw [List.takeWhile_cons] at hb
    split at hb
    · rename_i h
      rcases List.mem_cons.1 hb with rfl | hb
      · exact of_decide_eq_true h
      · exact ih hb
    · exact absurd hb List.not_mem_nil

/-- What stands neither before nor behind `a` is `a` itself. -/
theorem mem_takeWhile_or_mem_dropWhile {a b : α} {m : List α} (hm : m.Pairwise (· < ·))
    (hb : b ∈ m) : b ∈ m.takeWhile (· < a) ∨ b = a ∨ b ∈ m.dropWhile (¬ a < ·) := by
  induction m with
  | nil => exact absurd hb List.not_mem_nil
  | cons c m ih =>
    obtain ⟨hc, hm⟩ := List.pairwise_cons.1 hm
    by_cases hca : c < a
    · rw [List.takeWhile_cons_of_pos (by simpa using hca),
        List.dropWhile_cons_of_pos (by simpa using CanonicalOrder.asymm hca)]
      rcases List.mem_cons.1 hb with rfl | hb
      · exact Or.inl List.mem_cons_self
      · exact (ih hm hb).imp_left (List.mem_cons_of_mem _)
    · by_cases hac : a < c
      · rw [List.dropWhile_cons_of_neg (by simpa using hac)]
        exact Or.inr (Or.inr hb)
      · obtain rfl := CanonicalOrder.eq_of_not_lt hca hac
        rcases List.mem_cons.1 hb with rfl | hb
        · exact Or.inr (Or.inl rfl)
        · rw [List.dropWhile_cons_of_pos (by simpa using hac)]
          refine Or.inr (Or.inr ?_)
          cases m with
          | nil => exact absurd hb List.not_mem_nil
          | cons d m =>
            rw [List.dropWhile_cons_of_neg (by simpa using hc d List.mem_cons_self)]
            exact hb

theorem mem_mergeSorted {b : α} {l m : List α} (hm : m.Pairwise (· < ·)) :
    b ∈ mergeSorted l m ↔ b ∈ l ∨ b ∈ m := by
  induction l generalizing m with
  | nil => simp [mergeSorted]
  | cons a l ih =>
    rw [mergeSorted, List.mem_append, List.mem_cons, List.mem_cons,
      ih (hm.sublist (List.dropWhile_sublist _))]
    constructor
    · rintro (h | rfl | h | h)
      · exact Or.inr ((List.takeWhile_sublist _).subset h)
      · exact Or.inl (Or.inl rfl)
      · exact Or.inl (Or.inr h)
      · exact Or.inr ((List.dropWhile_sublist _).subset h)
    · rintro ((rfl | h) | h)
      · exact Or.inr (Or.inl rfl)
      · exact Or.inr (Or.inr (Or.inl h))
      · rcases mem_takeWhile_or_mem_dropWhile hm h with h | h | h
        · exact Or.inl h
        · exact Or.inr (Or.inl h)
        · exact Or.inr (Or.inr (Or.inr h))

theorem pairwise_mergeSorted {l m : List α} (hl : l.Pairwise (· < ·)) (hm : m.Pairwise (· < ·)) :
    (mergeSorted l m).Pairwise (· < ·) := by
  induction l generalizing m with
  | nil => exact hm
  | cons a l ih =>
    obtain ⟨ha, hl⟩ := List.pairwise_cons.1 hl
    have hd : (m.dropWhile (¬ a < ·)).Pairwise (· < ·) := hm.sublist (List.dropWhile_sublist _)
    have hgt : ∀ c ∈ mergeSorted l (m.dropWhile (¬ a < ·)), a < c := fun c hc =>
      ((mem_mergeSorted hd).1 hc).elim (ha c) (lt_of_mem_dropWhile hm)
    refine List.pairwise_append.2 ⟨hm.sublist (List.takeWhile_sublist _),
      List.pairwise_cons.2 ⟨hgt, ih hl hd⟩, fun b hb c hc => ?_⟩
    have hba := lt_of_mem_takeWhile hb
    rcases List.mem_cons.1 hc with rfl | hc
    · exact hba
    · exact CanonicalOrder.trans hba (hgt c hc)

/-- The members of either set. -/
protected def union (s t : OrderedSet α) : OrderedSet α :=
  ⟨mergeSorted s.toList t.toList, pairwise_mergeSorted s.sorted t.sorted⟩

instance : Union (OrderedSet α) := ⟨OrderedSet.union⟩

@[simp] theorem mem_union {a : α} {s t : OrderedSet α} : a ∈ s ∪ t ↔ a ∈ s ∨ a ∈ t :=
  mem_mergeSorted t.sorted

/-- The set without `a`. -/
def erase [DecidableEq α] (a : α) (s : OrderedSet α) : OrderedSet α :=
  ⟨s.toList.filter (· ≠ a), s.sorted.filter _⟩

@[simp] theorem mem_erase [DecidableEq α] {a b : α} {s : OrderedSet α} :
    b ∈ s.erase a ↔ b ∈ s ∧ b ≠ a := by
  refine List.mem_filter.trans (and_congr Iff.rfl ?_)
  exact decide_eq_true_iff

/-- Adding a new member and taking it out again changes nothing. -/
theorem erase_insert [DecidableEq α] {a : α} {s : OrderedSet α} (h : a ∉ s) :
    (s.insert a).erase a = s := by
  ext b
  rw [mem_erase, mem_insert]
  constructor
  · rintro ⟨e | hb, hne⟩
    · exact absurd e hne
    · exact hb
  · exact fun hb => ⟨Or.inr hb, fun e => h (e ▸ hb)⟩

/-- The number of members. -/
def size (s : OrderedSet α) : Nat := s.toList.length

theorem length_insertSorted {a : α} {l : List α} (h : a ∉ l) :
    (insertSorted a l).length = l.length + 1 := by
  induction l with
  | nil => rfl
  | cons b l ih =>
    rw [List.mem_cons, not_or] at h
    rw [insertSorted]
    split
    · rfl
    split
    · rw [List.length_cons, ih h.2, List.length_cons]
    · rename_i hlt hgt
      exact absurd (CanonicalOrder.eq_of_not_lt hlt hgt) h.1

theorem size_insert_of_not_mem {a : α} {s : OrderedSet α} (h : a ∉ s) :
    (s.insert a).size = s.size + 1 :=
  length_insertSorted h

theorem insert_of_mem {a : α} {s : OrderedSet α} (h : a ∈ s) : s.insert a = s := by
  ext b
  rw [mem_insert]
  exact ⟨fun hb => hb.elim (fun e => e ▸ h) id, Or.inr⟩

/-- No member at all. -/
def isEmpty (s : OrderedSet α) : Bool := s.toList.isEmpty

theorem isEmpty_iff {s : OrderedSet α} : s.isEmpty = true ↔ s = ∅ :=
  ⟨fun h => eq_of_toList (List.isEmpty_iff.1 h), fun h => h ▸ rfl⟩

/-- No common member. -/
def disjoint [DecidableEq α] (s t : OrderedSet α) : Bool := s.toList.all (· ∉ t)

theorem disjoint_iff [DecidableEq α] {s t : OrderedSet α} :
    s.disjoint t = true ↔ ∀ a ∈ s, a ∉ t := by
  simp only [disjoint, List.all_eq_true, decide_eq_true_eq, mem_toList]

/-- The union of the sets that `f` gives for the members of `s`. -/
def flatMap (s : OrderedSet α) (f : α → OrderedSet β) : OrderedSet β :=
  s.toList.foldl (fun t a => t ∪ f a) ∅

@[simp] theorem mem_flatMap {s : OrderedSet α} {f : α → OrderedSet β} {b : β} :
    b ∈ s.flatMap f ↔ ∃ a ∈ s, b ∈ f a := by
  have h : ∀ (l : List α) (t : OrderedSet β),
      b ∈ l.foldl (fun t a => t ∪ f a) t ↔ b ∈ t ∨ ∃ a ∈ l, b ∈ f a := by
    intro l
    induction l with
    | nil => simp
    | cons a l ih =>
      intro t
      rw [List.foldl_cons, ih, mem_union, or_assoc]
      simp only [List.mem_cons, exists_eq_or_imp]
  rw [flatMap, h]
  simp only [not_mem_empty, false_or, mem_toList]

/-! ## Images -/

/-- The set of what `f` gives for the members of `s`. -/
def image (f : α → β) (s : OrderedSet α) : OrderedSet β := ofList (s.toList.map f)

section Image

variable {γ δ : Type} [CanonicalOrder γ] [CanonicalOrder δ] {f : α → β} {s : OrderedSet α}

@[simp] theorem mem_image {b : β} : b ∈ s.image f ↔ ∃ a ∈ s, f a = b := by
  unfold image
  simp only [mem_ofList, List.mem_map, mem_toList]

theorem mem_image_of_injective (hf : ∀ {a b}, f a = f b → a = b) {a : α} :
    f a ∈ s.image f ↔ a ∈ s := by
  rw [mem_image]
  exact ⟨fun ⟨_, hb, e⟩ => hf e ▸ hb, fun ha => ⟨a, ha, rfl⟩⟩

@[simp] theorem image_empty : (∅ : OrderedSet α).image f = ∅ := rfl

@[simp] theorem image_singleton (a : α) : ({a} : OrderedSet α).image f = {f a} := rfl

theorem image_eq_empty_iff : s.image f = ∅ ↔ s = ∅ := by
  refine ⟨fun h => ext fun a => ⟨fun ha => ?_, nofun⟩, fun h => h ▸ image_empty⟩
  have himage : f a ∈ s.image f := mem_image.2 ⟨a, ha, rfl⟩
  exact absurd (h ▸ himage) (not_mem_empty (f a))

theorem image_insert (a : α) : (s.insert a).image f = (s.image f).insert (f a) := by
  ext b
  rw [mem_image, mem_insert, mem_image, eq_comm (a := b)]
  simp only [mem_insert, or_and_right, exists_or, exists_eq_left]

theorem image_union {t : OrderedSet α} : (s ∪ t).image f = s.image f ∪ t.image f := by
  ext b
  simp only [mem_image, mem_union, or_and_right, exists_or]

/-- What is taken back gives the set that it came from. -/
theorem image_image_of_leftInverse {f' : β → α} (h : ∀ a, f' (f a) = a) :
    (s.image f).image f' = s := by
  ext a
  rw [mem_image]
  constructor
  · rintro ⟨_, hb, rfl⟩
    obtain ⟨c, hc, rfl⟩ := mem_image.1 hb
    exact (h c).symm ▸ hc
  · intro ha
    exact ⟨f a, mem_image.2 ⟨a, ha, rfl⟩, h a⟩

/-- A map passes through a union that it is compatible with. -/
theorem flatMap_image {h : α → OrderedSet γ} {h' : β → OrderedSet δ} {f' : γ → δ}
    (hh : ∀ a ∈ s, h' (f a) = (h a).image f') :
    (s.image f).flatMap h' = (s.flatMap h).image f' := by
  ext d
  simp only [mem_flatMap, mem_image]
  constructor
  · rintro ⟨_, ⟨a, ha, rfl⟩, hd⟩
    rw [hh a ha, mem_image] at hd
    obtain ⟨c, hc, hcd⟩ := hd
    exact ⟨c, ⟨a, ha, hc⟩, hcd⟩
  · rintro ⟨c, ⟨a, ha, hc⟩, hcd⟩
    refine ⟨f a, ⟨a, ha, rfl⟩, ?_⟩
    rw [hh a ha, mem_image]
    exact ⟨c, hc, hcd⟩

end Image

end OrderedSet

/-- A test that more members pass, one of them anew, counts more. -/
theorem countP_lt_countP {α : Type} {p q : α → Bool} {a : α} {l : List α}
    (hpq : ∀ x, p x = true → q x = true) (ha : a ∈ l) (hp : ¬ p a = true) (hq : q a = true) :
    l.countP p < l.countP q := by
  induction l with
  | nil => exact absurd ha List.not_mem_nil
  | cons b l ih =>
    have hle : l.countP p ≤ l.countP q := List.countP_mono_left fun x _ => hpq x
    rw [List.countP_cons, List.countP_cons]
    rcases List.mem_cons.1 ha with rfl | ha
    · rw [if_neg hp, if_pos hq]; omega
    · have hlt := ih ha
      by_cases hb : p b = true
      · rw [if_pos hb, if_pos (hpq b hb)]; omega
      · rw [if_neg hb]; exact Nat.lt_of_lt_of_le hlt (Nat.le_add_right _ _)

end TopDown
