import Collation.Proofs.Order

/-! A finer strength decides only between words that every coarser one leaves equal, and the finest
one leaves equal only what has the same normal form. -/

namespace Collation

variable {s u : Strength}

theorem Strength.levels_of_le (h : s ≤ u) : ∃ finer, u.levels = s.levels ++ finer := by
  obtain ⟨finer, hfiner⟩ : s.levels <+: u.levels := List.take_prefix_take_left h
  exact ⟨finer, hfiner.symm⟩

theorem Strength.levels_eq_cons (s : Strength) : ∃ finer, s.levels = .primary :: finer := by
  cases s <;> exact ⟨_, rfl⟩

namespace Key

variable {k l : Key}

/-- The levels that a finer strength adds come after those of a coarser one. -/
theorem compare_of_le (h : s ≤ u) (k l : Key) :
    ∃ o, Key.compare u k l = (Key.compare s k l).then o := by
  cases hblank : Word.compareBlank (some k.source) (some l.source) with
  | some o => exact ⟨.eq, by simp only [Key.compare, hblank, Ordering.then_eq]⟩
  | none =>
    obtain ⟨finer, hfiner⟩ := Strength.levels_of_le h
    refine ⟨compareLevels k l finer, ?_⟩
    simp only [Key.compare, hblank]
    rw [hfiner, compareLevels_append]

/-- Where primary ranks differ, no other level is looked at. -/
theorem compareLevels_of_primary_ne (s : Strength)
    (hne : k.level .primary ≠ l.level .primary) :
    compareLevels k l s.levels = if k.level .primary < l.level .primary then .lt else .gt := by
  obtain ⟨finer, hfiner⟩ := s.levels_eq_cons
  rw [hfiner, compareLevels, compareLevel, if_neg hne]
  split <;> rfl

end Key

namespace Tailoring

variable {t : Tailoring} {a b : Word}

/-- What is decided at a strength stays so at every finer one, and what is equal at the finer one
is equal before. Words with different primary ranks compare by these, at every strength, whatever
differs on the other levels. -/
theorem compare_finer (h : s ≤ u) :
    (t.compare s a b ≠ .eq → t.compare u a b = t.compare s a b) ∧
    (t.compare u a b = .eq → t.compare s a b = .eq) ∧
    (a.isBlank = false → b.isBlank = false →
      (t.key u a).level .primary ≠ (t.key u b).level .primary →
      t.compare u a b =
        if (t.key u a).level .primary < (t.key u b).level .primary then .lt else .gt) := by
  obtain ⟨o, ho⟩ := Key.compare_of_le h (t.key s a) (t.key s b)
  rw [← compare_eq_compare_key, ← compare_eq_compare_key] at ho
  refine ⟨?_, ?_, ?_⟩
  · intro hne
    rw [ho]
    cases hs : t.compare s a b with
    | eq => exact absurd hs hne
    | lt | gt => rfl
  · intro heq
    exact (Ordering.then_eq_eq.mp (ho.symm.trans heq)).1
  · intro ha hb hne
    rw [compare_of_not_blank u ha hb]
    exact Key.compareLevels_of_primary_ne u hne

/-- A letter with its capital and its accented form, and another letter. -/
def accented : Table :=
  ⟨[⟨['a'], ⟨0, 0, 0⟩⟩, ⟨['A'], ⟨0, 0, 1⟩⟩, ⟨['à'], ⟨0, 1, 0⟩⟩, ⟨['b'], ⟨1, 0, 0⟩⟩], by decide⟩

theorem compare_finer_accented :
    let t : Tailoring := ⟨accented, none⟩
    t.compare .secondary (some ['à', 'A']) (some ['a', 'a']) = .gt ∧
    t.compare .identical (some ['à', 'A']) (some ['a', 'a']) = .gt ∧
    t.compare .identical (some ['à', 'A']) (some ['a', 'b']) = .lt := by
  intro t
  have hsecondary : t.compare .secondary (some ['à', 'A']) (some ['a', 'a']) = .gt := by
    decide +kernel
  have hle : Strength.secondary ≤ .identical := by decide
  obtain ⟨hfiner, -, -⟩ := compare_finer (t := t) (a := some ['à', 'A']) (b := some ['a', 'a']) hle
  obtain ⟨-, -, hranks⟩ := compare_finer (t := t) (a := some ['à', 'A']) (b := some ['a', 'b']) hle
  refine ⟨hsecondary, (hfiner (by simp [hsecondary])).trans hsecondary, ?_⟩
  exact (hranks (by decide) (by decide) (by decide +kernel)).trans (by decide +kernel)

theorem level_key_of_normalize_eq (s : Strength)
    (h : normalize t.form (a.getD []) = normalize t.form (b.getD [])) :
    (t.key s a).level = (t.key s b).level := by
  funext level
  cases level <;> simp [Key.level, Tailoring.key, h]

/-- At the finest strength, words are equal if both are blank, or if neither is and both have the
same normal form. -/
theorem compare_identical_eq_iff : t.compare .identical a b = .eq ↔
    a.isBlank = true ∧ b.isBlank = true ∨
    a.isBlank = false ∧ b.isBlank = false ∧
      normalize t.form (a.getD []) = normalize t.form (b.getD []) := by
  cases ha : a.isBlank <;> cases hb : b.isBlank
  · rw [compare_of_not_blank _ ha hb]
    have hiff : Key.compareLevels (t.key .identical a) (t.key .identical b)
        (Strength.levels .identical) = .eq ↔
        normalize t.form (a.getD []) = normalize t.form (b.getD []) := by
      constructor
      · intro h
        change Key.compareLevels _ _ (Strength.levels .tertiary ++ [.identical]) = .eq at h
        rw [Key.compareLevels_append, Ordering.then_eq_eq] at h
        exact Key.compareLevel_identical.mp (Ordering.then_eq_eq.mp h.2).1
      · intro h
        rw [(Key.compareLevels_compares _ _ _).eq_eq, level_key_of_normalize_eq _ h]
    simpa using hiff
  · simp [Tailoring.compare, Word.compareBlank, ha, hb]
  · simp [Tailoring.compare, Word.compareBlank, ha, hb]
  · simp [Tailoring.compare, Word.compareBlank, ha, hb]

end Tailoring

end Collation
