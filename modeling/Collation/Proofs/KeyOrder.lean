import Collation.Proofs.FinerStrength

/-! Keys of any words, tables and strengths may be mixed: their levels are totally ordered, blank keys
are the least, and a key for a lower strength comes before the key of the same word for a higher
one. -/

namespace Collation

variable {k l m : Key}

theorem Strength.levels_injective : Function.Injective levels := by
  intro s u h
  cases s <;> cases u <;> simp [levels, all, toNat] at h ⊢

theorem Strength.levels_of_le_of_ne {s u : Strength} (h : s ≤ u) (hne : s ≠ u) :
    ∃ level finer, u.levels = s.levels ++ level :: finer := by
  obtain ⟨finer, hfiner⟩ := levels_of_le h
  cases finer with
  | cons level finer => exact ⟨level, finer, hfiner⟩
  | nil =>
    rw [List.append_nil] at hfiner
    exact absurd (levels_injective hfiner).symm hne

theorem lt_append_cons {α : Type} [LinearOrder α] (xs : List α) (y : α) (ys : List α) :
    xs < xs ++ y :: ys := by
  induction xs with
  | nil => exact List.Lex.nil
  | cons x xs ih => exact List.Lex.cons ih

namespace Key

theorem less_trans (hkl : k.less l = true) (hlm : l.less m = true) : k.less m = true :=
  less_iff.mpr ((less_iff.mp hkl).trans (less_iff.mp hlm))

theorem same_trans (hkl : k.same l = true) (hlm : l.same m = true) : k.same m = true :=
  same_iff.mpr ((same_iff.mp hkl).trans (same_iff.mp hlm))

/-- Keys that are the same are so to every other key. -/
theorem less_congr (h : k.same l = true) : k.less m = l.less m ∧ m.less k = m.less l := by
  rw [less, less, less, less, same_iff.mp h]
  exact ⟨rfl, rfl⟩

theorem greater_eq_less (k l : Key) : k.greater l = l.less k := by
  rw [Bool.eq_iff_iff, greater_iff, less_iff]

/-- Exactly one of less, same and greater holds of two keys. -/
theorem trichotomy (k l : Key) :
    k.less l = true ∧ k.same l = false ∧ k.greater l = false ∨
    k.less l = false ∧ k.same l = true ∧ k.greater l = false ∨
    k.less l = false ∧ k.same l = false ∧ k.greater l = true := by
  simp only [← Bool.not_eq_true, less_iff, same_iff, greater_iff]
  rcases lt_trichotomy k.levels l.levels with h | h | h
  · exact Or.inl ⟨h, h.ne, h.asymm⟩
  · exact Or.inr (Or.inl ⟨h.not_lt, h, h.not_gt⟩)
  · exact Or.inr (Or.inr ⟨h.asymm, h.ne', h⟩)

theorem le_eq_less_or_same (k l : Key) : k.le l = (k.less l || k.same l) := by
  rw [Bool.eq_iff_iff, Bool.or_eq_true, le_iff, less_iff, same_iff]
  exact le_iff_lt_or_eq

theorem same_comm (k l : Key) : k.same l = l.same k := by
  rw [Bool.eq_iff_iff, same_iff, same_iff]
  exact eq_comm

theorem same_of_blank (hk : k.isBlank = true) (hl : l.isBlank = true) : k.same l = true := by
  rw [same_iff, levels_of_blank hk, levels_of_blank hl]

theorem less_of_blank (hk : k.isBlank = true) (hl : l.isBlank = false) : k.less l = true := by
  obtain ⟨finer, hf⟩ := levels_cons_of_not_blank hl
  rw [less_iff, levels_of_blank hk, hf]
  exact List.Lex.nil

/-- A key made for a higher strength has more levels. -/
theorem less_withStrength {s u : Strength} (hk : k.isBlank = false) (h : s ≤ u) (hne : s ≠ u) :
    (k.withStrength s).less (k.withStrength u) = true := by
  obtain ⟨level, finer, hlevels⟩ := Strength.levels_of_le_of_ne h hne
  rw [less_iff, levels_of_not_blank (k := k.withStrength s) hk,
    levels_of_not_blank (k := k.withStrength u) hk]
  change s.levels.map k.level < u.levels.map k.level
  rw [hlevels, List.map_append, List.map_cons]
  exact lt_append_cons _ _ _

end Key

namespace Tailoring

/-- The keys of any words, made with any tables and strengths, are totally ordered, and all operators
tell of one order. The keys of blank words are the same and come before all others. Of two keys of a
word that is not blank, the one for the lower strength comes first. -/
theorem keys_totally_ordered (t₁ t₂ t₃ : Tailoring) (s₁ s₂ s₃ : Strength) (a b c : Word) :
    let k := t₁.key s₁ a
    let l := t₂.key s₂ b
    let m := t₃.key s₃ c
    (k.less l = true ∧ k.same l = false ∧ k.greater l = false ∨
      k.less l = false ∧ k.same l = true ∧ k.greater l = false ∨
      k.less l = false ∧ k.same l = false ∧ k.greater l = true) ∧
    (k.greater l = l.less k ∧ k.same l = l.same k ∧
      k.le l = (k.less l || k.same l) ∧ l.le k = (k.greater l || k.same l) ∧
      (!k.same l) = (k.less l || k.greater l)) ∧
    (k.less l = true → l.less m = true → k.less m = true) ∧
    (k.same l = true → l.same m = true → k.same m = true) ∧
    (k.same l = true → k.less m = l.less m ∧ m.less k = m.less l) ∧
    (a.isBlank = true → b.isBlank = true → k.same l = true) ∧
    (a.isBlank = true → b.isBlank = false → k.less l = true) ∧
    (a.isBlank = false → s₁ ≤ s₂ → s₁ ≠ s₂ → k.less (t₁.key s₂ a) = true) := by
  intro k l m
  refine ⟨Key.trichotomy k l, ⟨Key.greater_eq_less k l, Key.same_comm k l,
    Key.le_eq_less_or_same k l, ?_, ?_⟩, Key.less_trans, Key.same_trans, Key.less_congr,
    Key.same_of_blank (k := k) (l := l), Key.less_of_blank (k := k) (l := l),
    Key.less_withStrength (k := k)⟩
  · rw [Key.le_eq_less_or_same, Key.greater_eq_less, Key.same_comm]
  · obtain ⟨hless, hsame, hgreater⟩ | ⟨hless, hsame, hgreater⟩ | ⟨hless, hsame, hgreater⟩ :=
      Key.trichotomy k l
    all_goals rw [hless, hsame, hgreater]; rfl

/-- White space under a table, nothing under another one, and a letter at two strengths. -/
theorem keys_totally_ordered_blank :
    let t : Tailoring := ⟨accented, none⟩
    let u : Tailoring := ⟨.empty, none⟩
    (t.key .primary (some [' ', '\t'])).same (u.key .identical none) = true ∧
    (t.key .primary (some [' ', '\t'])).less (u.key .identical (some ['a'])) = true ∧
    (t.key .secondary (some ['à'])).less (t.key .tertiary (some ['à'])) = true := by
  intro t u
  obtain ⟨-, -, -, -, -, hsame, -, -⟩ := keys_totally_ordered t u u .primary .identical .identical
    (some [' ', '\t']) none none
  obtain ⟨-, -, -, -, -, -, hless, -⟩ := keys_totally_ordered t u u .primary .identical .identical
    (some [' ', '\t']) (some ['a']) none
  obtain ⟨-, -, -, -, -, -, -, hstrength⟩ := keys_totally_ordered t t t .secondary .tertiary
    .tertiary (some ['à']) none none
  exact ⟨hsame (by decide) (by decide), hless (by decide) (by decide),
    hstrength (by decide) (by decide) (by decide)⟩

end Tailoring

end Collation
