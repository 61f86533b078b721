import Mathlib.Data.List.Forall2
import Collation.Proofs.FinerStrength
import Collation.Proofs.Sort

/-! The keys of sorted words depend on which words there are, not on their order in the input. So
two sorts of the same words differ only between words that compare as equal. -/

namespace Collation

namespace Tailoring

variable {t : Tailoring} {s : Strength} {a b : Word} {ws vs : List Word}

def levelsOf (t : Tailoring) (s : Strength) (w : Word) : List (List Int) :=
  (t.key s w).levels

theorem pairwise_levels_sort (t : Tailoring) (s : Strength) (ws : List Word) :
    ((t.sort s ws).map (t.levelsOf s)).Pairwise (· ≤ ·) :=
  List.pairwise_map.mpr ((pairwise_sort t s ws).imp Key.le_iff.mp)

theorem levels_sort_of_perm (s : Strength) (h : ws.Perm vs) :
    (t.sort s ws).map (t.levelsOf s) = (t.sort s vs).map (t.levelsOf s) := by
  have hsorts : (t.sort s ws).Perm (t.sort s vs) :=
    (sort_perm t s ws).trans (h.trans (sort_perm t s vs).symm)
  -- The words may stand in other places, but there is one way to put their levels in order.
  exact List.Perm.eq_of_pairwise (fun _ _ _ _ => le_antisymm) (pairwise_levels_sort t s ws)
    (pairwise_levels_sort t s vs) (hsorts.map _)

theorem sort_equal_of_perm (s : Strength) (h : ws.Perm vs) :
    List.Forall₂ (fun a b => t.compare s a b = .eq) (t.sort s ws) (t.sort s vs) := by
  have hlevels : List.Forall₂ (· = ·) ((t.sort s ws).map (t.levelsOf s))
      ((t.sort s vs).map (t.levelsOf s)) := by
    rw [List.forall₂_eq_eq_eq]
    exact levels_sort_of_perm s h
  rw [List.forall₂_map_left_iff, List.forall₂_map_right_iff] at hlevels
  exact hlevels.imp fun a b heq => (compare_compares t s a b).eq_eq.mpr heq

/-- With no normal form, words that are not blank are equal at the finest strength only if they are
the same. -/
theorem eq_of_compare_identical (hform : t.form = none) (ha : a.isBlank = false)
    (h : t.compare .identical a b = .eq) : a = b := by
  obtain ⟨hblank, -⟩ | ⟨-, hb, hnormal⟩ := compare_identical_eq_iff.mp h
  · rw [ha] at hblank
    contradiction
  · rw [hform] at hnormal
    cases a with
    | none => contradiction
    | some x =>
      cases b with
      | none => contradiction
      | some y => exact congrArg some hnormal

end Tailoring

namespace Collator

variable {c : Collator} {ws vs : List Word}

/-- Words sorted from two orders of the input are pairwise equal in comparison. At the finest
strength they are pairwise blank or of one normal form, and so the same, if no normal form is used
and none is blank. -/
theorem sort_of_perm (c : Collator) (h : ws.Perm vs) :
    ∃ xs ys, (c.sort ws).1 = .ok xs ∧ (c.sort vs).1 = .ok ys ∧
      List.Forall₂ (fun a b => c.compare a b = .eq) xs ys ∧
      (c.strength = .identical →
        List.Forall₂ (fun a b => a.isBlank = true ∧ b.isBlank = true ∨
          normalize c.tailoring.form (a.getD []) = normalize c.tailoring.form (b.getD [])) xs ys ∧
        (c.tailoring.form = none → (∀ w ∈ ws, w.isBlank = false) → xs = ys)) := by
  have hequal := Tailoring.sort_equal_of_perm (t := c.tailoring) c.strength h
  refine ⟨c.tailoring.sort c.strength ws, c.tailoring.sort c.strength vs, sort_fst c ws,
    sort_fst c vs, hequal, ?_⟩
  intro hidentical
  rw [hidentical] at hequal ⊢
  constructor
  · refine hequal.imp fun a b hab => ?_
    exact (Tailoring.compare_identical_eq_iff.mp hab).imp_right fun hsame => hsame.2.2
  · intro hform hwords
    have hblank : ∀ a ∈ c.tailoring.sort .identical ws, a.isBlank = false :=
      fun a ha => hwords a ((Tailoring.sort_perm _ _ _).mem_iff.mp ha)
    rw [← List.forall₂_eq_eq_eq]
    refine ((List.forall₂_and_left _ _).mpr ⟨hblank, hequal⟩).imp ?_
    rintro a b ⟨ha, hab⟩
    exact Tailoring.eq_of_compare_identical hform ha hab

/-- Two symbols of one weight, and a letter. -/
def symbols : Table :=
  ⟨[⟨['@'], ⟨0, 0, 0⟩⟩, ⟨['!'], ⟨0, 0, 0⟩⟩, ⟨['a'], ⟨1, 0, 0⟩⟩], by decide⟩

theorem sort_of_perm_symbols :
    let c : Strength → Collator := fun s => ⟨⟨symbols, none⟩, s, .int 1⟩
    let ws : List Word := [some ['a'], some ['@'], some ['!'], some ['a', '!']]
    let vs : List Word := [some ['a', '!'], some ['!'], some ['a'], some ['@']]
    ws.Perm vs ∧
    (∃ xs ys, ((c .tertiary).sort ws).1 = .ok xs ∧ ((c .tertiary).sort vs).1 = .ok ys ∧
      List.Forall₂ (fun a b => (c .tertiary).compare a b = .eq) xs ys) ∧
    ∃ xs, ((c .identical).sort ws).1 = .ok xs ∧ ((c .identical).sort vs).1 = .ok xs := by
  intro c ws vs
  have hperm : ws.Perm vs := by decide
  obtain ⟨xs, ys, hxs, hys, hequal, -⟩ := sort_of_perm (c .tertiary) hperm
  obtain ⟨xs', ys', hxs', hys', -, hidentical⟩ := sort_of_perm (c .identical) hperm
  obtain rfl : xs' = ys' := (hidentical rfl).2 rfl (by decide)
  exact ⟨hperm, ⟨xs, ys, hxs, hys, hequal⟩, xs', hxs', hys'⟩

end Collator

end Collation
