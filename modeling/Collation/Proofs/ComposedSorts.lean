import Mathlib.Data.List.Permutation
import Collation.Proofs.SortedKeys

/-! Sorts one after the other. A stable sort is determined by the order of the keys and by the order
in which words of one key come in, so that a coarser sort before a finer one, or the sorting of parts
before the whole, leaves no trace. -/

namespace Collation

variable {α β : Type} [PartialOrder β] {key : α → β} {x y : α} {xs ys : List α}

theorem Strength.le_refl (s : Strength) : s ≤ s :=
  Nat.le_refl s.toNat

theorem key_head_le (h : (y :: ys).Pairwise fun a b => key a ≤ key b) (hx : x ∈ y :: ys) :
    key y ≤ key x := by
  rcases List.mem_cons.mp hx with rfl | hx
  · exact le_rfl
  · exact List.rel_of_pairwise_cons h hx

variable [DecidableEq β]

/-- Lists that are ordered by key are equal if the members of each key come in one order. -/
theorem eq_of_filter_key_eq (hxs : xs.Pairwise fun a b => key a ≤ key b)
    (hys : ys.Pairwise fun a b => key a ≤ key b)
    (h : ∀ b, xs.filter (key · = b) = ys.filter (key · = b)) : xs = ys := by
  induction xs generalizing ys with
  | nil =>
    cases ys with
    | nil => rfl
    | cons y ys => simpa using h (key y)
  | cons x xs ih =>
    cases ys with
    | nil => simpa using h (key x)
    | cons y ys =>
      -- Either head is in the other list, where no key is less than that of its head.
      have hx : x ∈ (y :: ys).filter (key · = key x) := by simp [← h (key x)]
      have hy : y ∈ (x :: xs).filter (key · = key y) := by simp [h (key y)]
      have hkey : key x = key y :=
        le_antisymm (key_head_le hxs (List.mem_filter.mp hy).1)
          (key_head_le hys (List.mem_filter.mp hx).1)
      have hhead := h (key x)
      rw [List.filter_cons_of_pos (by simp), List.filter_cons_of_pos (by simp [hkey])] at hhead
      obtain ⟨rfl, -⟩ := List.cons.inj hhead
      refine congrArg (x :: ·) (ih hxs.tail hys.tail fun b => ?_)
      have hb := h b
      by_cases hxb : key x = b
      · rw [List.filter_cons_of_pos (by simpa), List.filter_cons_of_pos (by simpa)] at hb
        exact (List.cons.inj hb).2
      · rwa [List.filter_cons_of_neg (by simpa), List.filter_cons_of_neg (by simpa)] at hb

namespace Tailoring

variable {t : Tailoring} {s u : Strength} {a b : Word} {vs ws : List Word}

theorem compare_eq_of_le (h : s ≤ u) (heq : t.compare u a b = .eq) : t.compare s a b = .eq := by
  obtain ⟨o, ho⟩ := Key.compare_of_le h (t.key s a) (t.key s b)
  rw [← compare_eq_compare_key, ← compare_eq_compare_key] at ho
  exact (Ordering.then_eq_eq.mp (ho.symm.trans heq)).1

theorem compare_ne_gt_of_le (h : s ≤ u) (hle : t.compare u a b ≠ .gt) : t.compare s a b ≠ .gt := by
  obtain ⟨o, ho⟩ := Key.compare_of_le h (t.key s a) (t.key s b)
  rw [← compare_eq_compare_key, ← compare_eq_compare_key] at ho
  intro hgt
  rw [ho, hgt] at hle
  exact hle rfl

theorem levelsOf_eq_iff : t.levelsOf s a = t.levelsOf s b ↔ t.compare s a b = .eq :=
  (compare_compares t s a b).eq_eq.symm

/-- Words that a strength does not tell apart keep their order in a sort at a coarser one. -/
theorem filter_levels_sort (h : s ≤ u) (ws : List Word) (levels : List (List Int)) :
    (t.sort s ws).filter (t.levelsOf u · = levels) = ws.filter (t.levelsOf u · = levels) := by
  have hequal : (ws.filter (t.levelsOf u · = levels)).Pairwise
      fun a b => wordLe (t.key s) a b = true := by
    refine List.pairwise_of_forall_mem_list fun a ha b hb => ?_
    have hab : t.levelsOf u a = t.levelsOf u b :=
      (of_decide_eq_true (List.mem_filter.mp ha).2).trans
        (of_decide_eq_true (List.mem_filter.mp hb).2).symm
    exact (compare_eq_iff_wordLe.mp (compare_eq_of_le h (levelsOf_eq_iff.mp hab))).1
  rw [sort_eq_mergeSort]
  exact filter_mergeSort wordLe_trans wordLe_total hequal

/-- A sort is determined by the words of each key in the order in which they come in. -/
theorem sort_eq_of_filter_levels
    (h : ∀ levels, vs.filter (t.levelsOf u · = levels) = ws.filter (t.levelsOf u · = levels)) :
    t.sort u vs = t.sort u ws := by
  have hv := List.pairwise_map.mp (pairwise_levels_sort t u vs)
  have hw := List.pairwise_map.mp (pairwise_levels_sort t u ws)
  refine eq_of_filter_key_eq hv hw fun levels => ?_
  rw [filter_levels_sort u.le_refl, filter_levels_sort u.le_refl, h]

theorem sort_sort_coarser (h : s ≤ u) (ws : List Word) :
    t.sort u (t.sort s ws) = t.sort u ws :=
  sort_eq_of_filter_levels (filter_levels_sort h ws)

theorem sort_coarser_sort (h : s ≤ u) (ws : List Word) :
    t.sort s (t.sort u ws) = t.sort u ws := by
  rw [sort_eq_mergeSort t s]
  refine List.mergeSort_of_pairwise ((pairwise_sort t u ws).imp fun hab => ?_)
  exact wordLe_iff_compare.mpr (compare_ne_gt_of_le h (wordLe_iff_compare.mp hab))

theorem sort_append_sort (u : Strength) (vs ws : List Word) :
    t.sort u (t.sort u vs ++ t.sort u ws) = t.sort u (vs ++ ws) := by
  refine sort_eq_of_filter_levels fun levels => ?_
  rw [List.filter_append, List.filter_append, filter_levels_sort u.le_refl,
    filter_levels_sort u.le_refl]

end Tailoring

namespace Collator

/-- A sort at a coarser strength changes nothing for a finer sort after it, nor anything in words that
are sorted at the finer one, and words that are sorted in two parts are sorted as a whole the same. -/
theorem sort_composes {s u : Strength} (h : s ≤ u) (c : Collator) (xs ys : List Word) :
    ∃ coarse fine more all,
      ((c.withStrength s).sort xs).1 = .ok coarse ∧
      ((c.withStrength u).sort xs).1 = .ok fine ∧
      ((c.withStrength u).sort ys).1 = .ok more ∧
      ((c.withStrength u).sort coarse).1 = .ok fine ∧
      ((c.withStrength s).sort fine).1 = .ok fine ∧
      ((c.withStrength u).sort (xs ++ ys)).1 = .ok all ∧
      ((c.withStrength u).sort (fine ++ more)).1 = .ok all := by
  have hcoarse := Tailoring.sort_sort_coarser (t := c.tailoring) h xs
  have hfine := Tailoring.sort_coarser_sort (t := c.tailoring) h xs
  have hparts := Tailoring.sort_append_sort (t := c.tailoring) u xs ys
  refine ⟨c.tailoring.sort s xs, c.tailoring.sort u xs, c.tailoring.sort u ys,
    c.tailoring.sort u (xs ++ ys), sort_fst _ xs, sort_fst _ xs, sort_fst _ ys, ?_, ?_,
    sort_fst _ _, ?_⟩
  · exact (sort_fst _ _).trans (congrArg Except.ok hcoarse)
  · exact (sort_fst _ _).trans (congrArg Except.ok hfine)
  · exact (sort_fst _ _).trans (congrArg Except.ok hparts)

/-- Words that differ by case or accent only, which the coarser sort leaves as they come in. -/
theorem sort_composes_accented :
    let c : Collator := ⟨⟨Tailoring.accented, none⟩, .tertiary, .int 1⟩
    let xs : List Word := [some ['b'], some ['à'], some ['A'], some ['a']]
    let coarse : List Word := [some ['à'], some ['A'], some ['a'], some ['b']]
    let fine : List Word := [some ['a'], some ['A'], some ['à'], some ['b']]
    Strength.primary ≤ .tertiary ∧
    ((c.withStrength .primary).sort xs).1 = .ok coarse ∧
    ((c.withStrength .tertiary).sort coarse).1 = .ok fine ∧
    ((c.withStrength .primary).sort fine).1 = .ok fine ∧
    ((c.withStrength .tertiary).sort (xs ++ [some ['a'], none])).1 =
      ((c.withStrength .tertiary).sort (fine ++ [none, some ['a']])).1 := by
  intro c xs coarse fine
  have hle : Strength.primary ≤ .tertiary := by decide
  have hcoarse : ((c.withStrength .primary).sort xs).1 = .ok coarse :=
    (sort_fst _ _).trans (congrArg Except.ok (by cbv))
  have hfine : ((c.withStrength .tertiary).sort xs).1 = .ok fine :=
    (sort_fst _ _).trans (congrArg Except.ok (by cbv))
  have hmore : ((c.withStrength .tertiary).sort [some ['a'], none]).1 = .ok [none, some ['a']] :=
    (sort_fst _ _).trans (congrArg Except.ok (by cbv))
  obtain ⟨coarse', fine', more', all, hcoarse', hfine', hmore', hcoarser, hagain, hall, hparts⟩ :=
    sort_composes hle c xs [some ['a'], none]
  obtain rfl : coarse' = coarse := Except.ok.inj (hcoarse'.symm.trans hcoarse)
  obtain rfl : fine' = fine := Except.ok.inj (hfine'.symm.trans hfine)
  obtain rfl : more' = [none, some ['a']] := Except.ok.inj (hmore'.symm.trans hmore)
  exact ⟨hle, hcoarse, hcoarser, hagain, hall.trans hparts.symm⟩

end Collator

end Collation
