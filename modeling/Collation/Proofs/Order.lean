import Mathlib.Data.List.Lex
import Mathlib.Data.Prod.Lex
import Mathlib.Order.Compare
import Collation.Collator

/-! Comparison level by level is the order of the level lists, which is total. -/

namespace Collation

theorem compares_cons {α : Type} [LinearOrder α] {x y : α} {xs ys : List α} {o p : Ordering}
    (ho : o.Compares x y) (hp : p.Compares xs ys) :
    (o.then p).Compares (x :: xs) (y :: ys) := by
  cases o with
  | lt => exact List.Lex.rel ho
  | gt => exact List.Lex.rel ho
  | eq =>
    obtain rfl : x = y := ho
    cases p with
    | lt => exact List.Lex.cons hp
    | eq => exact congrArg _ hp
    | gt => exact List.Lex.cons hp

namespace Key

variable {k l : Key}

theorem compareLevel_compares (k l : Key) (level : Strength) :
    (compareLevel k l level).Compares (k.level level) (l.level level) := by
  unfold compareLevel
  split
  · next h => exact h
  · next hne =>
    split
    · next hlt => exact hlt
    · next hlt => exact lt_of_le_of_ne (not_lt.mp hlt) (Ne.symm hne)

theorem compareLevels_compares (k l : Key) (levels : List Strength) :
    (compareLevels k l levels).Compares (levels.map k.level) (levels.map l.level) := by
  induction levels with
  | nil => rfl
  | cons level finer ih => exact compares_cons (compareLevel_compares k l level) ih

theorem compareLevel_identical :
    compareLevel k l .identical = .eq ↔ k.normalized = l.normalized := by
  rw [(compareLevel_compares k l .identical).eq_eq]
  have hinjective : Function.Injective fun c : Char => (c.toNat : Int) := by
    intro c d h
    exact Char.toNat_inj.mp (Int.ofNat.inj h)
  exact (List.map_injective_iff.mpr hinjective).eq_iff

theorem compareLevels_append (k l : Key) (coarse finer : List Strength) :
    compareLevels k l (coarse ++ finer) =
      (compareLevels k l coarse).then (compareLevels k l finer) := by
  induction coarse with
  | nil => rfl
  | cons level coarse ih =>
    rw [List.cons_append, compareLevels, ih, compareLevels, Ordering.then_assoc]

theorem levels_of_blank (h : k.isBlank = true) : k.levels = [] := by
  simp [levels, h]

theorem levels_of_not_blank (h : k.isBlank = false) :
    k.levels = k.strength.levels.map k.level := by
  simp [levels, h]

theorem levels_cons_of_not_blank (h : k.isBlank = false) :
    ∃ finer, k.levels = k.level .primary :: finer := by
  rw [levels_of_not_blank h]
  cases k.strength <;> exact ⟨_, rfl⟩

/-- The same key, made for another strength. -/
def withStrength (k : Key) (s : Strength) : Key :=
  { k with strength := s }

/-- Any two keys compare at a strength as the keys made for that strength are ordered. -/
theorem compare_compares (s : Strength) (k l : Key) :
    (Key.compare s k l).Compares (k.withStrength s).levels (l.withStrength s).levels := by
  unfold Key.compare Word.compareBlank
  cases hk : Word.isBlank (some k.source) <;> cases hl : Word.isBlank (some l.source)
  · rw [levels_of_not_blank (k := k.withStrength s) hk,
      levels_of_not_blank (k := l.withStrength s) hl]
    exact compareLevels_compares k l s.levels
  · obtain ⟨finer, hf⟩ := levels_cons_of_not_blank (k := k.withStrength s) hk
    rw [hf, levels_of_blank (k := l.withStrength s) hl]
    exact List.Lex.nil
  · obtain ⟨finer, hf⟩ := levels_cons_of_not_blank (k := l.withStrength s) hl
    rw [hf, levels_of_blank (k := k.withStrength s) hk]
    exact List.Lex.nil
  · rw [levels_of_blank (k := k.withStrength s) hk, levels_of_blank (k := l.withStrength s) hl]
    rfl

theorem compare_withStrength (s s₁ s₂ : Strength) (k l : Key) :
    Key.compare s (k.withStrength s₁) (l.withStrength s₂) = Key.compare s k l :=
  (compare_compares s (k.withStrength s₁) (l.withStrength s₂)).inj (compare_compares s k l)

theorem less_iff : k.less l = true ↔ k.levels < l.levels :=
  decide_eq_true_iff

theorem same_iff : k.same l = true ↔ k.levels = l.levels :=
  beq_iff_eq

theorem le_iff : k.le l = true ↔ k.levels ≤ l.levels := by
  rw [← not_lt, ← less_iff, le, Bool.not_eq_true', Bool.not_eq_true]

theorem greater_iff : k.greater l = true ↔ l.levels < k.levels := by
  rw [greater, Bool.and_eq_true, Bool.not_eq_true', Bool.not_eq_true', ← Bool.not_eq_true,
    ← Bool.not_eq_true, less_iff, same_iff, not_lt]
  exact ⟨fun h => lt_of_le_of_ne h.1 (Ne.symm h.2), fun h => ⟨h.le, h.ne'⟩⟩

/-- The levels after a mark that tells whether there is anything to compare. -/
def marked (k : Key) : Bool ×ₗ List (List Int) :=
  toLex (!k.isBlank, k.levels)

theorem less_iff_marked : k.less l = true ↔ k.marked < l.marked := by
  rw [less_iff, marked, marked, Prod.Lex.toLex_lt_toLex]
  cases hk : k.isBlank <;> cases hl : l.isBlank
  · simp
  · simp [levels_of_blank hl]
  · obtain ⟨finer, hf⟩ := levels_cons_of_not_blank hl
    simp [levels_of_blank hk, hf]
  · simp

theorem same_iff_marked : k.same l = true ↔ k.marked = l.marked := by
  rw [same_iff, marked, marked, toLex_inj, Prod.mk.injEq]
  refine ⟨fun h => ⟨?_, h⟩, And.right⟩
  cases hk : k.isBlank <;> cases hl : l.isBlank
  · rfl
  · obtain ⟨finer, hf⟩ := levels_cons_of_not_blank hk
    simp [hf, levels_of_blank hl] at h
  · obtain ⟨finer, hf⟩ := levels_cons_of_not_blank hl
    simp [hf, levels_of_blank hk] at h
  · rfl

end Key

namespace Tailoring

variable (t : Tailoring) (s : Strength) (a b c : Word)

theorem compare_eq_compare_key (s₁ s₂ : Strength) :
    t.compare s a b = Key.compare s (t.key s₁ a) (t.key s₂ b) := by
  unfold Tailoring.compare
  cases h : Word.compareBlank a b with
  | some o =>
    have hk : Word.compareBlank (some (t.key s₁ a).source) (some (t.key s₂ b).source) = some o := h
    simp only [Key.compare, hk]
  | none => exact (Key.compare_withStrength s s₁ s₂ (t.key s a) (t.key s b)).symm

theorem compare_compares : (t.compare s a b).Compares (t.key s a).levels (t.key s b).levels := by
  rw [compare_eq_compare_key t s a b s s]
  exact Key.compare_compares s _ _

theorem compare_of_not_blank {t : Tailoring} {a b : Word} (s : Strength) (ha : a.isBlank = false)
    (hb : b.isBlank = false) :
    t.compare s a b = Key.compareLevels (t.key s a) (t.key s b) s.levels := by
  have hblank : Word.compareBlank a b = none := by simp [Word.compareBlank, ha, hb]
  have hkeys : Word.compareBlank (some (t.key s a).source) (some (t.key s b).source) = none :=
    hblank
  simp only [Tailoring.compare, Key.compare, hblank, hkeys]

/-- Comparison is a total preorder: every word is equal to itself, swapping the words swaps the
outcome, and an outcome carries over along words that are in order or equal. -/
theorem compare_totalPreorder :
    t.compare s a a = .eq ∧
    t.compare s a b = (t.compare s b a).swap ∧
    (t.compare s a b ≠ .gt → t.compare s b c ≠ .gt →
      t.compare s a c ≠ .gt ∧
      (t.compare s a b = .lt ∨ t.compare s b c = .lt → t.compare s a c = .lt)) ∧
    (t.compare s a b = .eq → t.compare s a c = t.compare s b c) := by
  have hab := compare_compares t s a b
  have hbc := compare_compares t s b c
  have hac := compare_compares t s a c
  refine ⟨?_, ?_, ?_, ?_⟩
  · exact (compare_compares t s a a).eq_eq.mpr rfl
  · exact hab.inj (Ordering.compares_swap.mpr (compare_compares t s b a))
  · intro h₁ h₂
    have hle₁ := hab.ne_gt.mp h₁
    have hle₂ := hbc.ne_gt.mp h₂
    refine ⟨hac.ne_gt.mpr (hle₁.trans hle₂), ?_⟩
    rintro (h | h)
    · exact hac.eq_lt.mpr ((hab.eq_lt.mp h).trans_le hle₂)
    · exact hac.eq_lt.mpr (hle₁.trans_lt (hbc.eq_lt.mp h))
  · intro h
    rw [hab.eq_eq.mp h] at hac
    exact hac.inj hbc

/-- Undeclared texts, by the code points that they differ in and by length. -/
theorem compare_totalPreorder_undeclared :
    let t : Tailoring := ⟨.empty, none⟩
    t.compare .primary (some ['a']) (some ['b']) = .lt ∧
    t.compare .primary (some ['b']) (some ['b', 'a']) = .lt ∧
    t.compare .primary (some ['a']) (some ['b', 'a']) = .lt := by
  intro t
  have hab : t.compare .primary (some ['a']) (some ['b']) = .lt := by decide +kernel
  have hbc : t.compare .primary (some ['b']) (some ['b', 'a']) = .lt := by decide +kernel
  obtain ⟨-, -, htrans, -⟩ :=
    compare_totalPreorder t .primary (some ['a']) (some ['b']) (some ['b', 'a'])
  exact ⟨hab, hbc, (htrans (by simp [hab]) (by simp [hbc])).2 (Or.inl hab)⟩

/-- Words compare at a strength as their keys do, whatever strengths the keys were made for, and as
the keys made for that strength are ordered, which is by their marked levels. -/
theorem compare_iff_key_order (s₁ s₂ : Strength) (processes : Value) :
    Key.compare s (t.key s₁ a) (t.key s₂ b) = t.compare s a b ∧
    (t.compare s a b = .lt ↔ (t.key s a).less (t.key s b) = true) ∧
    (t.compare s a b = .eq ↔ (t.key s a).same (t.key s b) = true) ∧
    (t.compare s a b = .gt ↔ (t.key s a).greater (t.key s b) = true) ∧
    (Collator.mk t s processes).less a b = (t.key s a).less (t.key s b) ∧
    (∀ k l : Key, k.less l = true ↔ k.marked < l.marked) ∧
    (∀ k l : Key, k.same l = true ↔ k.marked = l.marked) := by
  have h := compare_compares t s a b
  refine ⟨(compare_eq_compare_key t s a b s₁ s₂).symm, ?_, ?_, ?_, ?_,
    fun k l => Key.less_iff_marked, fun k l => Key.same_iff_marked⟩
  · exact h.eq_lt.trans Key.less_iff.symm
  · exact h.eq_eq.trans Key.same_iff.symm
  · exact h.eq_gt.trans Key.greater_iff.symm
  · rw [Bool.eq_iff_iff, Collator.less, decide_eq_true_iff, Key.less_iff]
    exact h.eq_lt

end Tailoring

end Collation
