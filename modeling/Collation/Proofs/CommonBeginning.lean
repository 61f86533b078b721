import Collation.Proofs.KeyOrder
import Collation.Proofs.Table.Boundary
import Collation.Proofs.Text.Lines

/-! A beginning of whole units that two texts share plays no part in their order, and a text comes
after its own beginnings of whole units. -/

namespace Collation

namespace Key

variable {k l k' l' : Key}

/-- What two levels begin with alike plays no part in their comparison. -/
theorem compareLevel_of_append {level : Strength} {ranks : List Int}
    (hk : k.level level = ranks ++ k'.level level) (hl : l.level level = ranks ++ l'.level level) :
    compareLevel k l level = compareLevel k' l' level := by
  have hmono : StrictMono (ranks ++ ·) := fun _ _ h => List.append_left_lt h
  have h := compareLevel_compares k l level
  rw [hk, hl] at h
  exact (hmono.compares.mp h).inj (compareLevel_compares k' l' level)

theorem compareLevels_congr (h : ∀ level, compareLevel k l level = compareLevel k' l' level)
    (levels : List Strength) : compareLevels k l levels = compareLevels k' l' levels := by
  induction levels with
  | nil => rfl
  | cons level finer ih => rw [compareLevels, compareLevels, h, ih]

end Key

namespace Tailoring

variable {t : Table} {c a b : Text}

theorem level_key_append (hne : ∀ e ∈ t.elements, e.text ≠ [])
    (h : t.IsBoundary (c ++ a) c.length) (s level : Strength) :
    ((⟨t, none⟩ : Tailoring).key s (some (c ++ a))).level level =
      ((⟨t, none⟩ : Tailoring).key s (some c)).level level ++
        ((⟨t, none⟩ : Tailoring).key s (some a)).level level := by
  have hweights := Table.weigh_append hne h
  cases level with
  | identical => exact List.map_append
  | primary | secondary | tertiary =>
    exact (congrArg (List.map _) hweights).trans List.map_append

/-- A common beginning of whole units is left out of a comparison. -/
theorem compare_append_left (hne : ∀ e ∈ t.elements, e.text ≠ []) (s : Strength)
    (ha : Text.isBlank a = false) (hb : Text.isBlank b = false)
    (hca : t.IsBoundary (c ++ a) c.length) (hcb : t.IsBoundary (c ++ b) c.length) :
    (⟨t, none⟩ : Tailoring).compare s (some (c ++ a)) (some (c ++ b)) =
      (⟨t, none⟩ : Tailoring).compare s (some a) (some b) := by
  have hcablank : Word.isBlank (some (c ++ a)) = false := by
    rw [Word.isBlank, Option.getD_some, Text.isBlank_append, ha, Bool.and_false]
  have hcbblank : Word.isBlank (some (c ++ b)) = false := by
    rw [Word.isBlank, Option.getD_some, Text.isBlank_append, hb, Bool.and_false]
  rw [compare_of_not_blank s hcablank hcbblank,
    compare_of_not_blank (a := some a) (b := some b) s ha hb]
  exact Key.compareLevels_congr (fun level => Key.compareLevel_of_append
    (level_key_append hne hca s level) (level_key_append hne hcb s level)) s.levels

/-- A text comes after a beginning of whole units that is not all of it. -/
theorem compare_append_right (hne : ∀ e ∈ t.elements, e.text ≠ []) (s : Strength)
    (hc : Text.isBlank c = false) (ha : a ≠ []) (hca : t.IsBoundary (c ++ a) c.length) :
    (⟨t, none⟩ : Tailoring).compare s (some (c ++ a)) (some c) = .gt := by
  have hblank : Word.isBlank (some (c ++ a)) = false := by
    rw [Word.isBlank, Option.getD_some, Text.isBlank_append, hc, Bool.false_and]
  obtain ⟨w, ws, hws⟩ := List.exists_cons_of_ne_nil (Table.weigh_ne_nil hne ha)
  have hgt : ((⟨t, none⟩ : Tailoring).key s (some c)).level .primary <
      ((⟨t, none⟩ : Tailoring).key s (some (c ++ a))).level .primary := by
    have hlevel : ((⟨t, none⟩ : Tailoring).key s (some a)).level .primary =
        w.primary :: ws.map Weight.primary := congrArg (List.map Weight.primary) hws
    rw [level_key_append hne hca, hlevel]
    exact lt_append_cons _ _ _
  rw [compare_of_not_blank (b := some c) s hblank hc, Key.compareLevels_of_primary_ne s hgt.ne',
    if_neg hgt.asymm]

/-- A boundary of units cuts the weights of a text into those of its two parts. Without a
normalization form, words that are not blank compare as they do after a common text at whose end
both have a boundary, and a text comes after each of its proper beginnings that is not blank and
ends at a boundary. -/
theorem weigh_and_compare_at_boundary (hne : ∀ e ∈ t.elements, e.text ≠ []) :
    (∀ text i, t.IsBoundary text i →
      t.weigh text = t.weigh (text.take i) ++ t.weigh (text.drop i)) ∧
    ∀ s : Strength,
      let compare := fun a b : Text => (⟨t, none⟩ : Tailoring).compare s (some a) (some b)
      (∀ c a b : Text, Text.isBlank a = false → Text.isBlank b = false →
        t.IsBoundary (c ++ a) c.length → t.IsBoundary (c ++ b) c.length →
        compare (c ++ a) (c ++ b) = compare a b) ∧
      (∀ text i, i < text.length → Text.isBlank (text.take i) = false → t.IsBoundary text i →
        compare text (text.take i) = .gt) := by
  refine ⟨fun text i h => Table.weigh_of_boundary hne h, fun s => ⟨?_, ?_⟩⟩
  · intro c a b ha hb hca hcb
    exact compare_append_left hne s ha hb hca hcb
  · intro text i hi hblank h
    have hlength : (text.take i).length = i := List.length_take_of_le hi.le
    have hrest : text.drop i ≠ [] := by
      rw [Ne, List.drop_eq_nil_iff]
      omega
    have hgt := compare_append_right (a := text.drop i) hne s hblank hrest (by
      rwa [List.take_append_drop, hlength])
    rwa [List.take_append_drop] at hgt

/-- Texts that go on differently after a contraction with which a longer one starts. Neither of them
goes on as the longer one does. -/
theorem weigh_and_compare_at_boundary_overlapping :
    let t := Table.overlapping
    let compare := fun s (a b : Text) => (⟨t, none⟩ : Tailoring).compare s (some a) (some b)
    t.weigh "abcab" = t.weigh "ab" ++ t.weigh "cab" ∧
    compare .primary "abcab" "abd" = compare .primary "cab" "d" ∧
    compare .identical "abcab" "ab" = .gt := by
  intro t compare
  have hne : ∀ e ∈ t.elements, e.text ≠ [] := by decide
  have hlong : t.IsBoundary "abcab" 2 :=
    ⟨[⟨['a', 'b'], ⟨1, 0, 0⟩⟩], [⟨['c'], ⟨103, 0, 0⟩⟩, ⟨['a', 'b'], ⟨1, 0, 0⟩⟩],
      by decide +kernel, rfl⟩
  have hshort : t.IsBoundary "abd" 2 :=
    ⟨[⟨['a', 'b'], ⟨1, 0, 0⟩⟩], [⟨['d'], ⟨104, 0, 0⟩⟩], by decide +kernel, rfl⟩
  obtain ⟨hweigh, hcompare⟩ := weigh_and_compare_at_boundary hne
  exact ⟨hweigh "abcab" 2 hlong,
    (hcompare .primary).1 "ab" "cab" "d" (by decide) (by decide) hlong hshort,
    (hcompare .identical).2 "abcab" 2 (by decide) (by decide) hlong⟩

end Tailoring

end Collation
