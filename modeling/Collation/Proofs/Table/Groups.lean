import Mathlib.Data.List.Lex
import Collation.Proofs.Table.Ranks

/-! Where weights grow along a table, its groups are runs of neighbours in the order of
declaration. -/

namespace Collation

section

variable {α β : Type} {l : List α}

/-- Members that come before all others are put first by a filter. -/
theorem filter_append_filter_not {p : α → Bool}
    (h : l.Pairwise fun a b => p b = true → p a = true) :
    l.filter p ++ l.filter (!p ·) = l := by
  induction l with
  | nil => rfl
  | cons a l ih =>
    obtain ⟨ha, hl⟩ := List.pairwise_cons.mp h
    cases hp : p a with
    | true => simp [hp, ih hl]
    | false =>
      have hnone : ∀ b ∈ l, p b = false := by
        intro b hb
        cases hpb : p b with
        | false => rfl
        | true => exact absurd (ha b hb hpb) (by simp [hp])
      rw [List.filter_eq_nil_iff.mpr (by simpa [hp] using hnone),
        List.filter_eq_self.mpr (by simpa [hp] using hnone), List.nil_append]

variable [DecidableEq β] {R : β → β → Prop}

theorem pairwise_eraseDups {ys : List β} (h : ys.Pairwise R) :
    ys.eraseDups.Pairwise fun x y => R x y ∧ x ≠ y := by
  induction hn : ys.length using Nat.strongRecOn generalizing ys with
  | ind n ih =>
    cases ys with
    | nil => simp
    | cons y ys =>
      obtain ⟨hy, hys⟩ := List.pairwise_cons.mp h
      rw [List.eraseDups_cons, List.pairwise_cons]
      constructor
      · intro x hx
        rw [List.mem_eraseDups, List.mem_filter] at hx
        exact ⟨hy x hx.1, fun heq => by simp [heq] at hx⟩
      · have hlength := List.length_filter_le (fun x => !x == y) ys
        rw [List.length_cons] at hn
        exact ih _ (by omega) (hys.filter _) rfl

/-- A list whose keys never come back to an earlier one is the list of its groups by key. -/
theorem flatMap_filter_eraseDups {f : α → β} (hR : ∀ x y, R x y → R y x → x = y)
    (h : l.Pairwise fun a b => R (f a) (f b)) :
    ((l.map f).eraseDups.flatMap fun y => l.filter (f · = y)) = l := by
  induction hn : l.length using Nat.strongRecOn generalizing l with
  | ind n ih =>
    cases l with
    | nil => rfl
    | cons a l =>
      obtain ⟨ha, hl⟩ := List.pairwise_cons.mp h
      let others := l.filter fun b => !decide (f b = f a)
      have hsplit : l.filter (f · = f a) ++ others = l := by
        refine filter_append_filter_not (hl.imp_of_mem ?_)
        intro b c hb _ hbc hc
        rw [decide_eq_true_eq] at hc ⊢
        exact hR _ _ (hc ▸ hbc) (ha b hb)
      have hkeys : (l.map f).filter (!· == f a) = others.map f := List.filter_map
      have hlength : others.length ≤ l.length := List.length_filter_le _ l
      rw [List.length_cons] at hn
      have hothers := ih others.length (by omega) (hl.filter _) rfl
      -- The head is in none of the groups of the other keys, nor is what has the head's key.
      have hgroups : ((others.map f).eraseDups.flatMap fun y => (a :: l).filter (f · = y)) =
          (others.map f).eraseDups.flatMap fun y => others.filter (f · = y) := by
        refine List.flatMap_congr fun y hy => ?_
        rw [List.mem_eraseDups, List.mem_map] at hy
        obtain ⟨b, hb, rfl⟩ := hy
        have hne : f b ≠ f a := by simpa using (List.mem_filter.mp hb).2
        rw [List.filter_cons_of_neg (by simpa using hne.symm), List.filter_filter]
        refine List.filter_congr fun c _ => ?_
        by_cases hc : f c = f b <;> simp [hc, hne]
      rw [List.map_cons, List.eraseDups_cons, hkeys, List.flatMap_cons, hgroups, hothers,
        List.filter_cons_of_pos (by simp), List.cons_append, hsplit]

end

namespace Table

variable {t : Table}

theorem pairwise_weights (h : t.elements.Pairwise fun a b => a.weight.le b.weight = true) :
    t.weights.Pairwise fun a b => a.le b = true ∧ a ≠ b :=
  pairwise_eraseDups (List.pairwise_map.mpr h)

theorem groups_of_pairwise (h : t.elements.Pairwise fun a b => a.weight.le b.weight = true) :
    t.groups = t.weights.map t.group := by
  rw [groups, List.mergeSort_of_pairwise ((pairwise_weights h).imp And.left)]

theorem members_groups (h : t.elements.Pairwise fun a b => a.weight.le b.weight = true) :
    t.groups.flatMap Group.members = t.elements.map Element.text := by
  have hgroups := flatMap_filter_eraseDups (fun _ _ => Weight.le_antisymm) h
  rw [groups_of_pairwise h, List.flatMap_map]
  change (t.weights.flatMap fun w => (t.elements.filter (·.weight = w)).map Element.text) = _
  rw [← List.map_flatMap]
  exact congrArg _ hgroups

theorem weights_groups (h : t.elements.Pairwise fun a b => a.weight.le b.weight = true) :
    (t.groups.map Group.weight).Pairwise fun a b => a.less b = true := by
  have hweights : t.groups.map Group.weight = t.weights := by
    rw [groups_of_pairwise h, List.map_map]
    exact List.map_id _
  rw [hweights]
  exact (pairwise_weights h).imp Weight.less_iff_le_and_ne.mpr

end Table

end Collation
