import Mathlib.Data.Char
import Mathlib.Order.Monotone.Basic
import Collation.Proofs.FinerStrength
import Collation.Proofs.Normalization
import Collation.Proofs.Table.Division
import Collation.Proofs.Table.Ranks

/-! Where the order of code points decides: at the finest strength, between texts that all ranks
leave equal, and at every strength between texts in which nothing is declared. What is declared
comes before all of these. -/

namespace Collation

theorem strictMono_map {α β : Type} [LinearOrder α] [LinearOrder β] {f : α → β}
    (hf : StrictMono f) : StrictMono (List.map f) := by
  intro xs ys h
  induction h with
  | nil => exact List.Lex.nil
  | cons _ ih => exact List.Lex.cons ih
  | rel h => exact List.Lex.rel (hf h)

theorem codePoint_lt {c d : Char} (h : c < d) : (c.toNat : Int) < d.toNat :=
  Int.ofNat_lt.mpr h

/-- An outcome that sees every difference is not changed by what is looked at after it. -/
theorem compares_then {α : Type} [LinearOrder α] {x y : α} {o p : Ordering}
    (ho : o.Compares x y) (hp : x = y → p = .eq) : (o.then p).Compares x y := by
  cases o with
  | lt | gt => exact ho
  | eq =>
    rw [hp ho]
    exact ho

namespace Table

variable {t : Table} {text : Text} {u : Element}

/-- A text in which nothing is declared is cut into its characters. -/
theorem weigh_of_undeclared (h : ∀ e ∈ t.elements, ¬ e.text <:+: text) :
    t.weigh text = text.map t.fallback := by
  induction text with
  | nil => rw [weigh, segment_nil]; rfl
  | cons c rest ih =>
    have hfirst : t.first? (c :: rest) = some ⟨[c], t.fallback c⟩ :=
      first?_eq_some_iff.mpr
        (Or.inr ⟨fun e he hbegins => h e he hbegins.isInfix, c, rest, rfl, rfl⟩)
    have hrest : t.weigh rest = rest.map t.fallback :=
      ih fun e he hinside => h e he (hinside.trans (List.suffix_cons c rest).isInfix)
    rw [weigh, segment_of_first? hfirst (List.cons_ne_nil c []) (List.cons_ne_nil c rest),
      List.map_cons, List.map_cons, ← hrest]
    rfl

theorem weigh_of_first (hu : t.IsFirst text u) (hne : u.text ≠ []) :
    ∃ ws, t.weigh text = u.weight :: ws := by
  have htext : text ≠ [] := by
    rintro rfl
    exact hne (List.prefix_nil.mp hu.text_prefix)
  exact ⟨_, congrArg (List.map Element.weight)
    (segment_of_first? (first?_eq_some_iff.mpr hu) hne htext)⟩

theorem weigh_of_declared_first (hne : ∀ e ∈ t.elements, e.text ≠ [])
    (h : ∃ e ∈ t.elements, e.text <+: text) :
    ∃ e ∈ t.elements, ∃ ws, t.weigh text = e.weight :: ws := by
  obtain ⟨e, he, hbegins⟩ := h
  have htext : text ≠ [] := by
    rintro rfl
    exact hne e he (List.prefix_nil.mp hbegins)
  obtain ⟨u, hu⟩ := exists_first (t := t) htext
  obtain ⟨hmem, -⟩ | ⟨hnone, -⟩ := id hu
  · exact ⟨u, hmem, weigh_of_first hu (hne u hmem)⟩
  · exact absurd hbegins (hnone e he)

theorem weigh_of_undeclared_first (htext : text ≠ []) (h : ∀ e ∈ t.elements, ¬ e.text <+: text) :
    ∃ c ws, t.weigh text = t.fallback c :: ws := by
  obtain ⟨u, hu⟩ := exists_first (t := t) htext
  obtain ⟨hmem, hbegins, -⟩ | ⟨-, c, rest, rfl, rfl⟩ := id hu
  · exact absurd hbegins (h u hmem)
  · exact ⟨c, weigh_of_first hu (List.cons_ne_nil c [])⟩

theorem fallback_primary_lt (t : Table) {c d : Char} (h : c < d) :
    (t.fallback c).primary < (t.fallback d).primary :=
  Int.add_lt_add_left (codePoint_lt h) (t.maxPrimary + 1)

/-- Characters that start no element have primary ranks above all declared ones. -/
theorem primary_lt_fallback {e : Element} (he : e ∈ t.elements) (c : Char) :
    e.weight.primary < (t.fallback c).primary := by
  have hle := (maxPrimary_spec (List.ne_nil_of_mem he)).2 e he
  change e.weight.primary < t.maxPrimary + 1 + (c.toNat : Int)
  omega

end Table

namespace Key

variable {k l : Key}

theorem compareLevel_identical_compares (k l : Key) :
    (compareLevel k l .identical).Compares k.normalized l.normalized := by
  have hmono : StrictMono fun c : Char => (c.toNat : Int) := fun _ _ h => codePoint_lt h
  exact (strictMono_map hmono).compares.mp (compareLevel_compares k l .identical)

end Key

namespace Tailoring

variable {t : Tailoring} {a b : Word}

/-- Code points are looked at last. -/
theorem compare_identical_of_not_blank (ha : a.isBlank = false) (hb : b.isBlank = false) :
    t.compare .identical a b = (t.compare .tertiary a b).then
      (Key.compareLevel (t.key .identical a) (t.key .identical b) .identical) := by
  rw [compare_of_not_blank _ ha hb, compare_of_not_blank _ ha hb]
  change Key.compareLevels _ _ (Strength.levels .tertiary ++ [.identical]) = _
  rw [Key.compareLevels_append]
  congr 1
  exact Ordering.then_eq

/-- At the finest strength, words are equal if both are blank, or if neither is and both have the
same normal form. Words that only this strength tells apart stand in the order of the code points of
their normal forms. -/
theorem compare_identical (t : Tailoring) (a b : Word) :
    (t.compare .identical a b = .eq ↔
      a.isBlank = true ∧ b.isBlank = true ∨
      a.isBlank = false ∧ b.isBlank = false ∧
        normalize t.form (a.getD []) = normalize t.form (b.getD [])) ∧
    (t.compare .identical a b ≠ .eq → t.compare .tertiary a b = .eq →
      (t.compare .identical a b).Compares (normalize t.form (a.getD []))
        (normalize t.form (b.getD []))) := by
  refine ⟨compare_identical_eq_iff, ?_⟩
  intro hne htertiary
  cases ha : a.isBlank <;> cases hb : b.isBlank
  · rw [compare_identical_of_not_blank ha hb, htertiary]
    exact Key.compareLevel_identical_compares _ _
  · simp [Tailoring.compare, Word.compareBlank, ha, hb] at htertiary
  · simp [Tailoring.compare, Word.compareBlank, ha, hb] at htertiary
  · exact absurd (compare_identical_eq_iff.mpr (Or.inl ⟨ha, hb⟩)) hne

/-- A letter and its accented form, declared with one weight, and a contraction of both. -/
def unaccented : Table :=
  ⟨[⟨['e'], ⟨0, 0, 0⟩⟩, ⟨['é'], ⟨0, 0, 0⟩⟩, ⟨['é', 'e'], ⟨0, 0, 0⟩⟩], by decide⟩

theorem compare_identical_unaccented :
    let t : Tailoring := ⟨unaccented, none⟩
    t.compare .tertiary (some ['é', 'e']) (some ['e']) = .eq ∧
    t.compare .identical (some ['é', 'e']) (some ['e']) = .gt := by
  intro t
  have htertiary : t.compare .tertiary (some ['é', 'e']) (some ['e']) = .eq := by decide +kernel
  obtain ⟨hequal, hsign⟩ := compare_identical t (some ['é', 'e']) (some ['e'])
  have hne : t.compare .identical (some ['é', 'e']) (some ['e']) ≠ .eq := by
    rw [Ne, hequal]
    decide
  exact ⟨htertiary, (hsign hne htertiary).eq_gt.mpr (by decide)⟩

theorem normalize_ne_nil_of_not_blank {form : Option Form} (h : a.isBlank = false) :
    normalize form (a.getD []) ≠ [] := by
  rw [Ne, normalize_eq_nil_iff]
  intro hnil
  rw [Word.isBlank, hnil] at h
  contradiction

/-- Where nothing is declared in either normal form, code points decide on the first level. -/
theorem compare_of_undeclared (s : Strength) (ha : a.isBlank = false) (hb : b.isBlank = false)
    (h : ∀ e ∈ t.table.elements, ¬ e.text <:+: normalize t.form (a.getD []) ∧
      ¬ e.text <:+: normalize t.form (b.getD [])) :
    (t.compare s a b).Compares (normalize t.form (a.getD [])) (normalize t.form (b.getD [])) := by
  have hprimary : (Key.compareLevel (t.key s a) (t.key s b) .primary).Compares
      (normalize t.form (a.getD [])) (normalize t.form (b.getD [])) := by
    have hlevels := Key.compareLevel_compares (t.key s a) (t.key s b) .primary
    change Ordering.Compares _ ((t.table.weigh _).map Weight.primary)
      ((t.table.weigh _).map Weight.primary) at hlevels
    rw [Table.weigh_of_undeclared fun e he => (h e he).1,
      Table.weigh_of_undeclared fun e he => (h e he).2, List.map_map, List.map_map] at hlevels
    have hmono : StrictMono (Weight.primary ∘ t.table.fallback) := fun _ _ h =>
      t.table.fallback_primary_lt h
    exact (strictMono_map hmono).compares.mp hlevels
  obtain ⟨finer, hfiner⟩ := s.levels_eq_cons
  rw [compare_of_not_blank s ha hb, hfiner, Key.compareLevels]
  refine compares_then hprimary fun heq => ?_
  rw [(Key.compareLevels_compares _ _ _).eq_eq, level_key_of_normalize_eq s heq]

/-- A declared element comes before every character that starts none. -/
theorem compare_of_declared_first (s : Strength) (ha : a.isBlank = false) (hb : b.isBlank = false)
    (hdeclared : ∃ e ∈ t.table.elements, e.text <+: normalize t.form (a.getD []))
    (hundeclared : ∀ e ∈ t.table.elements, ¬ e.text <+: normalize t.form (b.getD [])) :
    t.compare s a b = .lt := by
  have hne : ∀ e ∈ t.table.elements, e.text ≠ [] := by
    intro e he hnil
    exact hundeclared e he (hnil ▸ List.nil_prefix)
  obtain ⟨e, he, ws, hws⟩ := Table.weigh_of_declared_first hne hdeclared
  obtain ⟨c, vs, hvs⟩ :=
    Table.weigh_of_undeclared_first (normalize_ne_nil_of_not_blank hb) hundeclared
  have hlt : (t.key s a).level .primary < (t.key s b).level .primary := by
    change (t.table.weigh _).map Weight.primary < (t.table.weigh _).map Weight.primary
    rw [hws, hvs]
    exact List.Lex.rel (Table.primary_lt_fallback he c)
  rw [compare_of_not_blank s ha hb, Key.compareLevels_of_primary_ne s (ne_of_lt hlt), if_pos hlt]

/-- Words that are not blank compare by the code points of their normal forms if no declared element
occurs in these. One whose normal form begins with a declared element comes before one whose normal
form begins with none. -/
theorem compare_undeclared (s : Strength) (ha : a.isBlank = false) (hb : b.isBlank = false) :
    let x := normalize t.form (a.getD [])
    let y := normalize t.form (b.getD [])
    ((∀ e ∈ t.table.elements, ¬ e.text <:+: x ∧ ¬ e.text <:+: y) →
      (t.compare s a b).Compares x y) ∧
    ((∃ e ∈ t.table.elements, e.text <+: x) → (∀ e ∈ t.table.elements, ¬ e.text <+: y) →
      t.compare s a b = .lt) :=
  ⟨compare_of_undeclared s ha hb, compare_of_declared_first s ha hb⟩

/-- A contraction and the letter that it starts with, both with negative ranks. -/
def negative : Table :=
  ⟨[⟨['z', 'h'], ⟨-7, 2, 0⟩⟩, ⟨['z'], ⟨-5, 0, -1⟩⟩], by decide⟩

theorem compare_undeclared_negative :
    let t : Tailoring := ⟨negative, none⟩
    t.compare .primary (some ['b']) (some ['b', 'a']) = .lt ∧
    t.compare .identical (some ['z', 'z', 'z']) (some ['a', 'z', 'h']) = .lt := by
  intro t
  obtain ⟨hcodes, -⟩ := compare_undeclared (t := t) (a := some ['b']) (b := some ['b', 'a'])
    .primary (by decide) (by decide)
  obtain ⟨-, hfirst⟩ := compare_undeclared (t := t) (a := some ['z', 'z', 'z'])
    (b := some ['a', 'z', 'h']) .identical (by decide) (by decide)
  exact ⟨(hcodes (by decide)).eq_lt.mpr (by decide), hfirst (by decide) (by decide)⟩

end Tailoring

end Collation
