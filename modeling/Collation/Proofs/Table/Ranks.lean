import Mathlib.Data.Int.Order.Basic
import Mathlib.Data.List.DropRight
import Mathlib.Data.List.Lex
import Collation.Proofs.Table.Build

/-! The weights that statements get: they count relations, grow from statement to statement, and
leave no primary rank out. -/

namespace Collation

namespace Weight

variable {a b c w : Weight} {r : Relation}

/-- The ranks that relations in a row lead to, the first of which opens the first primary group:
primary groups after the first, then secondary variants since the last primary group, then tertiary
variants since the last group or variant. -/
def ofRelations (rs : List Relation) : Weight where
  primary := rs.tail.count .primary
  secondary := (rs.rtakeWhile (· ≠ .primary)).count .secondary
  tertiary := (rs.rtakeWhile fun r => r ≠ .primary ∧ r ≠ .secondary).count .tertiary

theorem ofRelations_concat {rs : List Relation} (hrs : rs ≠ []) (r : Relation) :
    ofRelations (rs ++ [r]) = (ofRelations rs).next r := by
  cases r <;>
    simp [ofRelations, next, List.tail_append_of_ne_nil hrs]

theorem after_eq_ofRelations (rs : List Relation) :
    beforeFirst.after (.primary :: rs) = ofRelations (.primary :: rs) := by
  induction rs using List.reverseRecOn with
  | nil => rfl
  | append_singleton rs r ih =>
    rw [← List.cons_append, ofRelations_concat (List.cons_ne_nil _ _), ← ih, after_append]
    rfl

theorem less_iff : a.less b = true ↔ a.toList < b.toList :=
  decide_eq_true_iff

theorem le_iff : a.le b = true ↔ a.toList ≤ b.toList := by
  rw [← not_lt, ← less_iff, le, Bool.not_eq_true', Bool.not_eq_true]

theorem toList_injective : Function.Injective toList := by
  rintro ⟨p, s, t⟩ ⟨p', s', t'⟩ h
  simpa [toList] using h

theorem less_iff_le_and_ne : a.less b = true ↔ a.le b = true ∧ a ≠ b := by
  rw [less_iff, le_iff, lt_iff_le_and_ne, toList_injective.ne_iff]

theorem le_trans (hab : a.le b = true) (hbc : b.le c = true) : a.le c = true :=
  le_iff.mpr ((le_iff.mp hab).trans (le_iff.mp hbc))

theorem le_antisymm (hab : a.le b = true) (hba : b.le a = true) : a = b :=
  toList_injective ((le_iff.mp hab).antisymm (le_iff.mp hba))

theorem less_next (w : Weight) (hr : r ≠ .same) : w.less (w.next r) = true := by
  rw [less_iff]
  cases r with
  | primary => exact List.Lex.rel (Int.lt_succ _)
  | secondary => exact List.Lex.cons (List.Lex.rel (Int.lt_succ _))
  | tertiary => exact List.Lex.cons (List.Lex.cons (List.Lex.rel (Int.lt_succ _)))
  | same => contradiction

theorem le_next (w : Weight) (r : Relation) : w.le (w.next r) = true := by
  by_cases hr : r = .same
  · subst hr
    exact le_iff.mpr le_rfl
  · exact (less_iff_le_and_ne.mp (less_next w hr)).1

theorem less_next_iff : w.less (w.next r) = true ↔ r ≠ .same := by
  refine ⟨?_, less_next w⟩
  rintro h rfl
  exact (less_iff_le_and_ne.mp h).2 rfl

end Weight

namespace Table

variable {ss : List Statement} {w : Weight} {e : Element}

theorem le_of_mem_weighed (he : e ∈ weighed w ss) : w.le e.weight = true := by
  induction ss generalizing w with
  | nil => contradiction
  | cons s ss ih =>
    have hnext := Weight.le_next w s.relation
    rcases List.mem_cons.mp he with rfl | he
    · exact hnext
    · exact Weight.le_trans hnext (ih he)

theorem pairwise_weighed (w : Weight) (ss : List Statement) :
    (weighed w ss).Pairwise fun a b => a.weight.le b.weight = true := by
  induction ss generalizing w with
  | nil => exact .nil
  | cons s ss ih => exact .cons (fun _ he => le_of_mem_weighed he) (ih (w.next s.relation))

theorem primary_next_le (w : Weight) (r : Relation) : (w.next r).primary ≤ w.primary + 1 := by
  cases r <;> simp only [Weight.next] <;> omega

theorem length_weighed (w : Weight) (ss : List Statement) :
    (weighed w ss).length = ss.length := by
  have h := congrArg List.length (texts_weighed w ss)
  rwa [List.length_map, List.length_map] at h

theorem getElem?_weighed_succ {k : Nat} {a b : Element} {r : Relation}
    (ha : (weighed w ss)[k]? = some a) (hb : (weighed w ss)[k + 1]? = some b)
    (hr : (ss.map Statement.relation)[k + 1]? = some r) : b.weight = a.weight.next r := by
  obtain ⟨hlength, -⟩ := List.getElem?_eq_some_iff.mp hr
  rw [List.length_map] at hlength
  rw [getElem?_weighed w ss k (by omega)] at ha
  rw [getElem?_weighed w ss (k + 1) hlength, List.take_add_one, hr] at hb
  obtain rfl := Option.some.inj ha
  obtain rfl := Option.some.inj hb
  exact Weight.after_append w _ [r]

/-- Primary ranks go up by one at a time, so that none is left out. -/
theorem exists_primary_weighed (he : e ∈ weighed w ss) {p : Int} (hlow : w.primary < p)
    (hhigh : p ≤ e.weight.primary) : ∃ f ∈ weighed w ss, f.weight.primary = p := by
  induction ss generalizing w with
  | nil => contradiction
  | cons s ss ih =>
    have hnext := primary_next_le w s.relation
    by_cases hp : p ≤ (w.next s.relation).primary
    · exact ⟨_, List.mem_cons_self, by change (w.next s.relation).primary = p; omega⟩
    · rcases List.mem_cons.mp he with rfl | he
      · contradiction
      · obtain ⟨f, hf, hprimary⟩ := ih he (by omega)
        exact ⟨f, List.mem_cons_of_mem _ hf, hprimary⟩

/-- The highest primary rank is that of some element, if there is any. -/
theorem maxPrimary_spec {t : Table} (h : t.elements ≠ []) :
    (∃ e ∈ t.elements, e.weight.primary = t.maxPrimary) ∧
      ∀ e ∈ t.elements, e.weight.primary ≤ t.maxPrimary := by
  unfold maxPrimary
  cases hmax : (t.elements.map (·.weight.primary)).max? with
  | none => simp [h] at hmax
  | some m =>
    obtain ⟨hmem, hle⟩ := List.max?_eq_some_iff.mp hmax
    exact ⟨List.mem_map.mp hmem, fun e he => hle _ (List.mem_map_of_mem he)⟩

theorem exists_weighed_after (w : Weight) (hne : ss ≠ []) :
    ∃ e ∈ weighed w ss, e.weight = w.after (ss.map Statement.relation) := by
  obtain ⟨before, last, rfl⟩ := (List.eq_nil_or_concat' ss).resolve_left hne
  rw [weighed_append, List.map_append, Weight.after_append]
  exact ⟨_, List.mem_append_right _ List.mem_cons_self, rfl⟩

theorem primary_le_after (he : e ∈ weighed w ss) :
    e.weight.primary ≤ (w.after (ss.map Statement.relation)).primary := by
  induction ss generalizing w with
  | nil => contradiction
  | cons s ss ih =>
    rcases List.mem_cons.mp he with rfl | he
    · rw [List.map_cons, Weight.after_cons, Weight.primary_after]
      exact Int.le_add_of_nonneg_right (Int.natCast_nonneg _)
    · exact ih he

/-- The highest primary rank is the one in effect after all relations. -/
theorem maxPrimary_ofStatements (hnodup : (ss.map Statement.element).Nodup) (hne : ss ≠ []) :
    (ofStatements ss).maxPrimary =
      (Weight.beforeFirst.after (ss.map Statement.relation)).primary := by
  have helements := elements_ofStatements hnodup
  obtain ⟨last, hlast, hafter⟩ := exists_weighed_after .beforeFirst hne
  rw [← helements] at hlast
  obtain ⟨⟨highest, hhighest, hmax⟩, hle⟩ := maxPrimary_spec (List.ne_nil_of_mem hlast)
  rw [helements] at hhighest
  have hlow := primary_le_after hhighest
  have hhigh := hle last hlast
  rw [hafter] at hhigh
  omega

/-! Statements of which the first one opens a primary group. -/

section

variable {rs : List Relation} (hrs : ss.map Statement.relation = .primary :: rs)

include hrs

theorem getElem?_weighed_ofRelations (k : Nat) (hk : k < ss.length) :
    (weighed .beforeFirst ss)[k]? =
      some ⟨ss[k].element, .ofRelations ((ss.map Statement.relation).take (k + 1))⟩ := by
  rw [getElem?_weighed .beforeFirst ss k hk, hrs, List.take_succ_cons, Weight.after_eq_ofRelations]

theorem head?_weighed : (weighed .beforeFirst ss).head?.map Element.weight = some ⟨0, 0, 0⟩ := by
  cases ss with
  | nil => contradiction
  | cons s ss =>
    obtain ⟨hprimary, -⟩ := List.cons.inj hrs
    rw [weighed, hprimary]
    rfl

theorem primary_nonneg (he : e ∈ weighed .beforeFirst ss) : 0 ≤ e.weight.primary := by
  obtain ⟨k, hk⟩ := List.mem_iff_getElem?.mp he
  obtain ⟨hlength, -⟩ := List.getElem?_eq_some_iff.mp hk
  rw [length_weighed] at hlength
  rw [getElem?_weighed_ofRelations hrs k hlength] at hk
  obtain rfl := Option.some.inj hk
  exact Int.natCast_nonneg _

theorem exists_primary_iff {t : Table} (ht : t.elements = weighed .beforeFirst ss) (p : Int) :
    (∃ e ∈ t.elements, e.weight.primary = p) ↔ 0 ≤ p ∧ p ≤ t.maxPrimary := by
  have hne : t.elements ≠ [] := by
    intro hnil
    have hhead := head?_weighed hrs
    rw [← ht, hnil] at hhead
    contradiction
  obtain ⟨⟨highest, hmem, hmax⟩, hle⟩ := maxPrimary_spec hne
  constructor
  · rintro ⟨e, he, rfl⟩
    exact ⟨primary_nonneg hrs (ht ▸ he), hle e he⟩
  · rintro ⟨hlow, hhigh⟩
    rw [ht] at hmem ⊢
    refine exists_primary_weighed hmem ?_ (hmax ▸ hhigh)
    change -1 < p
    omega

end

end Table

end Collation
