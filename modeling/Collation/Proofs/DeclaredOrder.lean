import Collation.Proofs.Order
import Collation.Proofs.Rule.Parser
import Collation.Proofs.Table.Build
import Collation.Proofs.Table.Segment

/-! The order that a rule text declares is the order in which its elements compare. -/

namespace Collation

/-- The relations of the statements after the one at `i`, up to the one at `j`. -/
def relationsBetween (ss : List Statement) (i j : Nat) : List Relation :=
  ((ss.map Statement.relation).take (j + 1)).drop (i + 1)

theorem after_take_succ (w : Weight) (ss : List Statement) {i j : Nat} (hij : i ≤ j) :
    w.after ((ss.map Statement.relation).take (j + 1)) =
      (w.after ((ss.map Statement.relation).take (i + 1))).after (relationsBetween ss i j) := by
  rw [← Weight.after_append, relationsBetween]
  congr 1
  have htake := List.take_append_drop (i + 1) ((ss.map Statement.relation).take (j + 1))
  rw [List.take_take, Nat.min_eq_left (by omega)] at htake
  exact htake.symm

theorem all_same_iff {rs : List Relation} : (∀ r ∈ rs, r = .same) ↔
    .primary ∉ rs ∧ .secondary ∉ rs ∧ .tertiary ∉ rs := by
  constructor
  · intro h
    refine ⟨?_, ?_, ?_⟩ <;> intro hr <;> exact Relation.noConfusion (h _ hr)
  · rintro ⟨hp, hs, ht⟩ r hr
    cases r with
    | same => rfl
    | primary => exact absurd hr hp
    | secondary => exact absurd hr hs
    | tertiary => exact absurd hr ht

namespace Key

variable {k l : Key} {level : Strength} {w : Weight} {rs : List Relation}

/-- On a level, an element comes before one that is `n` ranks later, unless `n` is zero. -/
theorem compareLevel_of_singleton {x : Int} {n : Nat} (hk : k.level level = [x])
    (hl : l.level level = [x + n]) :
    compareLevel k l level = if n = 0 then .eq else .lt := by
  unfold compareLevel
  rw [hk, hl]
  by_cases hn : n = 0
  · simp [hn]
  · have hlt : [x] < [x + (n : Int)] := List.Lex.rel (by omega)
    rw [if_neg (ne_of_lt hlt), if_pos hlt, if_neg hn]

/-- On a level that one relation advances and no other relation of the run changes, that relation
decides. -/
theorem compareLevel_after {f : Weight → Int} {r : Relation} (hk : k.weights = [w])
    (hl : l.weights = [w.after rs]) (hlevel : ∀ k : Key, k.level level = k.weights.map f)
    (hr : ∀ w, f (w.next r) = f w + 1) (hrs : ∀ q ∈ rs, q ≠ r → ∀ w, f (w.next q) = f w) :
    compareLevel k l level = if r ∈ rs then .lt else .eq := by
  have hafter : l.level level = [f w + rs.count r] := by
    rw [hlevel, hl, List.map_singleton, Weight.rank_after hr hrs]
  rw [compareLevel_of_singleton (by rw [hlevel, hk, List.map_singleton]) hafter]
  simp [List.count_eq_zero]

theorem compareLevel_primary (hk : k.weights = [w]) (hl : l.weights = [w.after rs]) :
    compareLevel k l .primary = if .primary ∈ rs then .lt else .eq :=
  compareLevel_after hk hl (fun _ => rfl) (fun _ => rfl)
    fun _ _ hne => Weight.primary_next_of_ne hne

theorem compareLevel_secondary (hk : k.weights = [w]) (hl : l.weights = [w.after rs])
    (hp : .primary ∉ rs) :
    compareLevel k l .secondary = if .secondary ∈ rs then .lt else .eq := by
  refine compareLevel_after hk hl (fun _ => rfl) (fun _ => rfl) ?_
  intro q hq hne w
  cases q with
  | primary | secondary => contradiction
  | tertiary | same => rfl

theorem compareLevel_tertiary (hk : k.weights = [w]) (hl : l.weights = [w.after rs])
    (hp : .primary ∉ rs) (hs : .secondary ∉ rs) :
    compareLevel k l .tertiary = if .tertiary ∈ rs then .lt else .eq := by
  refine compareLevel_after hk hl (fun _ => rfl) (fun _ => rfl) ?_
  intro q hq hne w
  cases q with
  | primary | secondary | tertiary => contradiction
  | same => rfl

theorem compareLevels_append_singleton (k l : Key) (levels : List Strength) (level : Strength) :
    compareLevels k l (levels ++ [level]) =
      (compareLevels k l levels).then (compareLevel k l level) := by
  rw [compareLevels_append, compareLevels, compareLevels, Ordering.then_eq]

theorem compareLevels_primary (hk : k.weights = [w]) (hl : l.weights = [w.after rs]) :
    compareLevels k l (Strength.levels .primary) = if .primary ∈ rs then .lt else .eq := by
  change compareLevels k l ([] ++ [.primary]) = _
  rw [compareLevels_append_singleton, compareLevel_primary hk hl]
  rfl

theorem compareLevels_secondary (hk : k.weights = [w]) (hl : l.weights = [w.after rs]) :
    compareLevels k l (Strength.levels .secondary) =
      if .primary ∈ rs ∨ .secondary ∈ rs then .lt else .eq := by
  change compareLevels k l (Strength.levels .primary ++ [.secondary]) = _
  rw [compareLevels_append_singleton, compareLevels_primary hk hl]
  by_cases hp : .primary ∈ rs
  · simp [hp]
  · rw [compareLevel_secondary hk hl hp]
    simp [hp]

theorem compareLevels_tertiary (hk : k.weights = [w]) (hl : l.weights = [w.after rs]) :
    compareLevels k l (Strength.levels .tertiary) = if ∀ r ∈ rs, r = .same then .eq else .lt := by
  change compareLevels k l (Strength.levels .secondary ++ [.tertiary]) = _
  rw [compareLevels_append_singleton, compareLevels_secondary hk hl]
  by_cases hps : .primary ∈ rs ∨ .secondary ∈ rs
  · have hnot : ¬ ∀ r ∈ rs, r = .same := by
      rw [all_same_iff]
      tauto
    rw [if_pos hps, if_neg hnot]
    rfl
  · obtain ⟨hp, hs⟩ := not_or.mp hps
    rw [if_neg hps, compareLevel_tertiary hk hl hp hs]
    by_cases ht : .tertiary ∈ rs
    · have hnot : ¬ ∀ r ∈ rs, r = .same := fun h => (all_same_iff.mp h).2.2 ht
      rw [if_pos ht, if_neg hnot]
      rfl
    · rw [if_neg ht, if_pos (all_same_iff.mpr ⟨hp, hs, ht⟩)]
      rfl

/-- Code points decide only between elements that are declared with one weight. -/
theorem compareLevels_identical (hk : k.weights = [w]) (hl : l.weights = [w.after rs]) :
    ((∃ r ∈ rs, r ≠ .same) → compareLevels k l (Strength.levels .identical) = .lt) ∧
    (compareLevels k l (Strength.levels .identical) = .eq → k.normalized = l.normalized) := by
  change (_ → compareLevels k l (Strength.levels .tertiary ++ [.identical]) = .lt) ∧
    (compareLevels k l (Strength.levels .tertiary ++ [.identical]) = .eq → _)
  rw [compareLevels_append_singleton, compareLevels_tertiary hk hl]
  constructor
  · rintro ⟨r, hr, hne⟩
    rw [if_neg fun h => hne (h r hr)]
    rfl
  · intro h
    exact compareLevel_identical.mp (Ordering.then_eq_eq.mp h).2

end Key

namespace Tailoring

variable {t : Tailoring} {form : Option Form} {text : Text} {ss : List Statement} {i j : Nat}

theorem ofRules_eq_ok (h : Tailoring.ofRules form text = .ok t) :
    ∃ ss, Rule.parse form text = .ok ss ∧ t = ⟨.ofStatements ss, form⟩ := by
  obtain ⟨ss, hss, h⟩ := bind_eq_ok h
  exact ⟨ss, hss, (Except.ok.inj h).symm⟩

theorem ofRules_of_parse (h : Rule.parse form text = .ok ss) :
    Tailoring.ofRules form text = .ok ⟨.ofStatements ss, form⟩ := by
  rw [ofRules, h]
  rfl

theorem normalize_declared (hss : Rule.Declared form ss)
    (hform : ∀ x, normalize form (normalize form x) = normalize form x) {s : Statement}
    (hs : s ∈ ss) : normalize form s.element = s.element := by
  obtain ⟨operand, hoperand⟩ := hss.normalized s hs
  rw [hoperand, hform]

/-- The element of a statement is cut into itself alone. -/
theorem weigh_declared (hss : Rule.Declared form ss) (hi : i < ss.length)
    (hblank : Text.isBlank ss[i].element = false) :
    (Table.ofStatements ss).weigh ss[i].element =
      [Weight.beforeFirst.after ((ss.map Statement.relation).take (i + 1))] := by
  have hmem := List.mem_of_getElem? (Table.getElem?_weighed .beforeFirst ss i hi)
  rw [← Table.elements_ofStatements hss.nodup] at hmem
  have hne : ss[i].element ≠ [] := by
    intro hnil
    rw [hnil] at hblank
    contradiction
  exact Table.weigh_element hmem hne

theorem weights_key_declared (hss : Rule.Declared form ss)
    (hform : ∀ x, normalize form (normalize form x) = normalize form x) (s : Strength)
    (hi : i < ss.length) (hblank : Text.isBlank ss[i].element = false) :
    ((⟨.ofStatements ss, form⟩ : Tailoring).key s (some ss[i].element)).weights =
      [Weight.beforeFirst.after ((ss.map Statement.relation).take (i + 1))] := by
  rw [← weigh_declared hss hi hblank]
  exact congrArg (Table.ofStatements ss).weigh
    (normalize_declared hss hform (List.getElem_mem hi))

theorem index_eq_of_element_eq (hss : Rule.Declared form ss) (hi : i < ss.length)
    (hj : j < ss.length) (h : ss[i].element = ss[j].element) : i = j := by
  apply (List.getElem?_inj (by simpa using hi) hss.nodup).mp
  rw [List.getElem?_map, List.getElem?_map, List.getElem?_eq_getElem hi,
    List.getElem?_eq_getElem hj]
  exact congrArg some h

/-- Under a form that changes nothing the second time, two elements of a rule text that are not
blank compare as the relations after the first one and up to the second one say: each strength sees
the relations of its own levels, and code points never go against a relation. -/
theorem compare_declared_elements (hrules : Tailoring.ofRules form text = .ok t)
    (hform : ∀ x, normalize form (normalize form x) = normalize form x) :
    ∃ ss, Rule.parse form text = .ok ss ∧
      ∀ i j (hij : i ≤ j) (hj : j < ss.length),
        Text.isBlank ss[i].element = false → Text.isBlank ss[j].element = false →
        let rs := relationsBetween ss i j
        let compareAt := fun s => t.compare s (some ss[i].element) (some ss[j].element)
        compareAt .primary = (if .primary ∈ rs then .lt else .eq) ∧
        compareAt .secondary = (if .primary ∈ rs ∨ .secondary ∈ rs then .lt else .eq) ∧
        compareAt .tertiary = (if ∀ r ∈ rs, r = .same then .eq else .lt) ∧
        ((∃ r ∈ rs, r ≠ .same) → compareAt .identical = .lt) ∧
        (compareAt .identical = .eq ↔ i = j) := by
  obtain ⟨ss, hparse, rfl⟩ := ofRules_eq_ok hrules
  have hss := Rule.declared_of_parse hparse
  refine ⟨ss, hparse, ?_⟩
  intro i j hij hj hbi hbj rs compareAt
  have hi : i < ss.length := by omega
  -- Either key has one weight, and the relations between lead from the first weight to the second.
  have hk := fun s => weights_key_declared hss hform s hi hbi
  have hl := fun s => (weights_key_declared hss hform s hj hbj).trans
    (congrArg (· :: []) (after_take_succ .beforeFirst ss hij))
  have hlevels : ∀ s, compareAt s = _ := fun s => compare_of_not_blank s hbi hbj
  refine ⟨?_, ?_, ?_, ?_, ?_⟩
  · exact (hlevels .primary).trans (Key.compareLevels_primary (hk _) (hl _))
  · exact (hlevels .secondary).trans (Key.compareLevels_secondary (hk _) (hl _))
  · exact (hlevels .tertiary).trans (Key.compareLevels_tertiary (hk _) (hl _))
  · intro hrs
    exact (hlevels .identical).trans ((Key.compareLevels_identical (hk _) (hl _)).1 hrs)
  · constructor
    · intro heq
      have hnormal : normalize form ss[i].element = normalize form ss[j].element :=
        (Key.compareLevels_identical (hk _) (hl _)).2 ((hlevels .identical).symm.trans heq)
      rw [normalize_declared hss hform (List.getElem_mem hi),
        normalize_declared hss hform (List.getElem_mem hj)] at hnormal
      exact index_eq_of_element_eq hss hi hj hnormal
    · intro h
      subst j
      exact (compare_compares _ _ _ _).eq_eq.mpr rfl

/-- A letter, its capital, a contraction that starts with it, and a quoted contraction. -/
def contractions : List Statement :=
  [⟨.primary, ['c'], 0⟩, ⟨.tertiary, ['C'], 4⟩, ⟨.secondary, ['c', 'h'], 8⟩,
    ⟨.same, ['c', ' ', 'h'], 13⟩]

theorem parse_contractions : Rule.parse none "c , C ; ch = 'c h'" = .ok contractions := by
  decide +kernel

theorem compare_declared_contractions :
    let t : Tailoring := ⟨.ofStatements contractions, none⟩
    t.compare .primary (some ['c']) (some ['c', ' ', 'h']) = .eq ∧
    t.compare .secondary (some ['c']) (some ['c', ' ', 'h']) = .lt ∧
    t.compare .tertiary (some ['c', 'h']) (some ['c', ' ', 'h']) = .eq ∧
    t.compare .identical (some ['c', 'h']) (some ['c', ' ', 'h']) ≠ .eq := by
  have hrules := ofRules_of_parse parse_contractions
  obtain ⟨ss, hparse, h⟩ := compare_declared_elements hrules fun _ => rfl
  obtain rfl : contractions = ss := Except.ok.inj (parse_contractions.symm.trans hparse)
  obtain ⟨hp, hs, -⟩ := h 0 3 (by decide) (by decide) (by decide) (by decide)
  obtain ⟨-, -, ht, -, hi⟩ := h 2 3 (by decide) (by decide) (by decide) (by decide)
  refine ⟨hp.trans (by decide), hs.trans (by decide), ht.trans (by decide), ?_⟩
  exact fun heq => absurd (hi.mp heq) (by decide)

end Tailoring

end Collation
