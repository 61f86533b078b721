import Collation.Proofs.Rule.Acceptance
import Collation.Proofs.Table.Ranks
import Collation.Scheme

/-! No two different rules make the same table: the statements of a rule can be told from the
weights that they have led to. -/

namespace Collation

/-- The relation that leads from one weight to another, by the first rank on which they differ. -/
def Weight.relationTo (a b : Weight) : Relation :=
  if a.primary ≠ b.primary then .primary
  else if a.secondary ≠ b.secondary then .secondary
  else if a.tertiary ≠ b.tertiary then .tertiary
  else .same

/-- What a statement declares, wherever it stands. -/
def Statement.declaration (s : Statement) : Relation × Text :=
  (s.relation, s.element)

theorem Weight.relationTo_next (w : Weight) (r : Relation) : w.relationTo (w.next r) = r := by
  have hne (n : Int) : n ≠ n + 1 := (Int.lt_succ n).ne
  cases r <;> simp [relationTo, next, hne]

namespace Table

variable {w : Weight} {ss qs : List Statement}

/-- What elements in a row declare, if the first of them comes after the weight `w`. -/
def declarations (w : Weight) : List Element → List (Relation × Text)
  | [] => []
  | e :: rest => (w.relationTo e.weight, e.text) :: declarations e.weight rest

theorem declarations_weighed (w : Weight) (ss : List Statement) :
    declarations w (weighed w ss) = ss.map Statement.declaration := by
  induction ss generalizing w with
  | nil => rfl
  | cons s ss ih =>
    rw [weighed, declarations, Weight.relationTo_next, ih]
    rfl

/-- Positions count for nothing. -/
theorem weighed_congr (w : Weight)
    (h : ss.map Statement.declaration = qs.map Statement.declaration) :
    weighed w ss = weighed w qs := by
  induction ss generalizing w qs with
  | nil =>
    obtain rfl : qs = [] := List.map_eq_nil_iff.mp h.symm
    rfl
  | cons s ss ih =>
    cases qs with
    | nil => contradiction
    | cons q qs =>
      obtain ⟨hdeclaration, hrest⟩ := List.cons.inj h
      obtain ⟨hrelation, helement⟩ := Prod.mk.inj hdeclaration
      rw [weighed, weighed, hrelation, helement, ih _ hrest]

theorem weighed_eq_iff : weighed w ss = weighed w qs ↔
    ss.map Statement.declaration = qs.map Statement.declaration := by
  refine ⟨fun h => ?_, weighed_congr w⟩
  rw [← declarations_weighed w ss, ← declarations_weighed w qs, h]

/-- A statement is told by the weight of its element and the weight before it. -/
theorem exists_statement_of_weighed {k : Nat} {a b : Element} (ha : (weighed w ss)[k]? = some a)
    (hb : (weighed w ss)[k + 1]? = some b) :
    ∃ s, ss[k + 1]? = some s ∧ s.declaration = (a.weight.relationTo b.weight, b.text) := by
  obtain ⟨hlength, -⟩ := List.getElem?_eq_some_iff.mp hb
  rw [length_weighed] at hlength
  have hs : ss[k + 1]? = some ss[k + 1] := List.getElem?_eq_getElem hlength
  have hrelation : (ss.map Statement.relation)[k + 1]? = some ss[k + 1].relation := by
    rw [List.getElem?_map, hs]
    rfl
  have htext : ss[k + 1].element = b.text := by
    rw [getElem?_weighed w ss (k + 1) hlength] at hb
    exact congrArg Element.text (Option.some.inj hb)
  refine ⟨ss[k + 1], hs, ?_⟩
  rw [getElem?_weighed_succ ha hb hrelation, Weight.relationTo_next, ← htext]
  rfl

end Table

/-- Statements are accepted under an unknown form only if they are without any. -/
theorem Rule.exists_parse_of_parseSetting {s : FormSetting} {text : Option Text}
    {ss : List Statement} (h : parseSetting s text = .ok ss) :
    ∃ form, parse form (text.getD []) = .ok ss := by
  unfold parseSetting at h
  dsimp only at h
  split at h
  · exact ⟨_, mapError_eq_ok h⟩
  · split at h
    · contradiction
    · exact ⟨none, mapError_eq_ok h⟩

namespace Scheme

variable {r s : Word} {formName : Option Text} {t u : Scheme}

theorem exists_of_ofRules (h : Scheme.ofRules r formName = .ok t) :
    ∃ ss, Rule.parseSetting (.ofName formName) r = .ok ss ∧
      t.table.elements = Table.weighed .beforeFirst ss ∧
      ss.head?.map Statement.relation = some .primary := by
  obtain ⟨ss, hparse, ht⟩ := bind_eq_ok h
  obtain rfl := Except.ok.inj ht
  obtain ⟨form, hss⟩ := Rule.exists_parse_of_parseSetting hparse
  obtain ⟨rs, hrs⟩ := Rule.relations_of_parse hss
  refine ⟨ss, hparse, Table.elements_ofStatements (Rule.declared_of_parse hss).nodup, ?_⟩
  rw [← List.head?_map, hrs]
  rfl

/-- Two accepted rule texts make tables of the same elements, with the same weights in the same
order, exactly if their statements have the same relations and elements in a row. The first relation
opens a primary group in any case, and each later one is told by the weights next to it. -/
theorem elements_eq_iff_declarations_eq (ht : Scheme.ofRules r formName = .ok t)
    (hu : Scheme.ofRules s formName = .ok u) :
    ∃ ss qs, Rule.parseSetting (.ofName formName) r = .ok ss ∧
      Rule.parseSetting (.ofName formName) s = .ok qs ∧
      (t.table.elements = u.table.elements ↔
        ss.map Statement.declaration = qs.map Statement.declaration) ∧
      ss.head?.map Statement.relation = some .primary ∧
      ∀ k a b, t.table.elements[k]? = some a → t.table.elements[k + 1]? = some b →
        ∃ q, ss[k + 1]? = some q ∧
          q.declaration = (a.weight.relationTo b.weight, b.text) := by
  obtain ⟨ss, hparse, helements, hfirst⟩ := exists_of_ofRules ht
  obtain ⟨qs, hparse', helements', -⟩ := exists_of_ofRules hu
  refine ⟨ss, qs, hparse, hparse', ?_, hfirst, ?_⟩
  · rw [helements, helements']
    exact Table.weighed_eq_iff
  · rw [helements]
    exact fun k a b ha hb => Table.exists_statement_of_weighed ha hb

theorem ofRules_of_parse {text : Text} {ss : List Statement} (h : Rule.parse none text = .ok ss) :
    Scheme.ofRules (some text) none = .ok ⟨.ofStatements ss, none⟩ := by
  have hparse : Rule.parseSetting (.ofName none) (some text) = .ok ss :=
    (Rule.parseSetting_eq_ok_iff rfl).mpr h
  rw [Scheme.ofRules, hparse]
  rfl

/-! One rule in two spellings, of which the second has an operator in front, quotes and no blank. -/

def spacedRules : Text := "a , b ; c < d = e"

def tightRules : Text := "<'a',b;c<d='e'"

def spacedStatements : List Statement :=
  [⟨.primary, ['a'], 0⟩, ⟨.tertiary, ['b'], 4⟩, ⟨.secondary, ['c'], 8⟩, ⟨.primary, ['d'], 12⟩,
    ⟨.same, ['e'], 16⟩]

def tightStatements : List Statement :=
  [⟨.primary, ['a'], 1⟩, ⟨.tertiary, ['b'], 5⟩, ⟨.secondary, ['c'], 7⟩, ⟨.primary, ['d'], 9⟩,
    ⟨.same, ['e'], 11⟩]

theorem elements_eq_iff_declarations_eq_spelled :
    ∃ t u, Scheme.ofRules (some spacedRules) none = .ok t ∧
      Scheme.ofRules (some tightRules) none = .ok u ∧ t.table.elements = u.table.elements := by
  have hspaced : Rule.parse none spacedRules = .ok spacedStatements := by decide +kernel
  have htight : Rule.parse none tightRules = .ok tightStatements := by decide +kernel
  have ht := ofRules_of_parse hspaced
  have hu := ofRules_of_parse htight
  obtain ⟨ss, qs, hss, hqs, hiff, -⟩ := elements_eq_iff_declarations_eq ht hu
  obtain rfl : spacedStatements = ss :=
    Except.ok.inj (((Rule.parseSetting_eq_ok_iff rfl).mpr hspaced).symm.trans hss)
  obtain rfl : tightStatements = qs :=
    Except.ok.inj (((Rule.parseSetting_eq_ok_iff rfl).mpr htight).symm.trans hqs)
  exact ⟨_, _, ht, hu, hiff.mpr (by decide)⟩

end Scheme

end Collation
