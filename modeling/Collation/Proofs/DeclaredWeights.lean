import Collation.Proofs.DeclaredOrder
import Collation.Proofs.Rule.Acceptance
import Collation.Proofs.Table.Groups

/-! The weights that a rule text declares are counts of its relations, and tell its elements and
their groups in the order of declaration. -/

namespace Collation

namespace Tailoring

variable {t : Tailoring} {form : Option Form} {text : Text}

/-- The table of an accepted rule text has one entry for each statement, in order, and its ranks
count the relations up to there. So the weights start at zero and grow, at every relation that is
not `same`; the primary ranks go from zero to the highest one without a gap; and the groups, whose
weights grow, hold the elements in the order of declaration. -/
theorem weights_count_relations (hrules : Tailoring.ofRules form text = .ok t) :
    ∃ ss, Rule.parse form text = .ok ss ∧
      let rs := ss.map Statement.relation
      let es := t.table.elements
      rs.head? = some .primary ∧
      es.length = ss.length ∧
      (∀ k (hk : k < ss.length),
        es[k]? = some ⟨ss[k].element, .ofRelations (rs.take (k + 1))⟩) ∧
      es.head?.map Element.weight = some ⟨0, 0, 0⟩ ∧
      es.Pairwise (fun a b => a.weight.le b.weight = true) ∧
      (∀ k a b r, es[k]? = some a → es[k + 1]? = some b → rs[k + 1]? = some r →
        (a.weight.less b.weight = true ↔ r ≠ .same)) ∧
      (∀ p, (∃ e ∈ es, e.weight.primary = p) ↔ 0 ≤ p ∧ p ≤ t.table.maxPrimary) ∧
      t.table.groups.flatMap Table.Group.members = ss.map Statement.element ∧
      (t.table.groups.map Table.Group.weight).Pairwise (fun a b => a.less b = true) := by
  obtain ⟨ss, hparse, rfl⟩ := ofRules_eq_ok hrules
  obtain ⟨rs, hrs⟩ := Rule.relations_of_parse hparse
  have helements := Table.elements_ofStatements (Rule.declared_of_parse hparse).nodup
  have hsorted := Table.pairwise_weighed .beforeFirst ss
  rw [← helements] at hsorted
  refine ⟨ss, hparse, ?_, ?_, ?_, ?_, hsorted, ?_, Table.exists_primary_iff hrs helements, ?_,
    Table.weights_groups hsorted⟩
  · rw [hrs]
    rfl
  · rw [helements, Table.length_weighed]
  · rw [helements]
    exact Table.getElem?_weighed_ofRelations hrs
  · rw [helements]
    exact Table.head?_weighed hrs
  · rw [helements]
    intro k a b r ha hb hr
    rw [Table.getElem?_weighed_succ ha hb hr]
    exact Weight.less_next_iff
  · rw [Table.members_groups hsorted, helements, Table.texts_weighed]

/-- Variants on both finer levels, one after another, and an element that repeats a weight. -/
def variants : List Statement :=
  [⟨.primary, ['a'], 0⟩, ⟨.secondary, ['b'], 4⟩, ⟨.tertiary, ['c'], 8⟩, ⟨.secondary, ['d'], 12⟩,
    ⟨.primary, ['e'], 16⟩, ⟨.same, ['f'], 20⟩, ⟨.tertiary, ['g'], 24⟩]

theorem parse_variants : Rule.parse none "a ; b , c ; d < e = f , g" = .ok variants := by
  decide +kernel

theorem weights_count_relations_variants :
    let t := Table.ofStatements variants
    Tailoring.ofRules none "a ; b , c ; d < e = f , g" = .ok ⟨t, none⟩ ∧
    t.elements[3]? = some ⟨['d'], ⟨0, 2, 0⟩⟩ ∧ t.elements[6]? = some ⟨['g'], ⟨1, 0, 1⟩⟩ ∧
    t.groups.flatMap Table.Group.members = [['a'], ['b'], ['c'], ['d'], ['e'], ['f'], ['g']] := by
  have hrules := ofRules_of_parse parse_variants
  obtain ⟨ss, hparse, -, -, hentries, -, -, -, -, hmembers, -⟩ := weights_count_relations hrules
  obtain rfl : variants = ss := Except.ok.inj (parse_variants.symm.trans hparse)
  refine ⟨hrules, ?_, ?_, hmembers⟩
  · exact (hentries 3 (by decide)).trans (by decide)
  · exact (hentries 6 (by decide)).trans (by decide)

end Tailoring

end Collation
