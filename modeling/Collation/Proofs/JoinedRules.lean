import Collation.Proofs.DeclaredOrder
import Collation.Proofs.Rule.Join
import Collation.Proofs.Table.Ranks

/-! Rule texts with an operator between them declare what each of them declares. After `<`, the
primary groups of the second text follow those of the first one. -/

namespace Collation

/-- The weight that comes `n` primary groups later. -/
def Weight.raise (n : Int) (w : Weight) : Weight :=
  { w with primary := w.primary + n }

def Element.raise (n : Int) (e : Element) : Element :=
  { e with weight := e.weight.raise n }

theorem Weight.next_raise (n : Int) (w : Weight) (r : Relation) :
    (w.raise n).next r = (w.next r).raise n := by
  cases r with
  | primary => simp [next, raise, Int.add_right_comm]
  | secondary | tertiary | same => rfl

namespace Table

variable {ss : List Statement}

theorem weighed_move (w : Weight) (f : Nat → Nat) (ss : List Statement) :
    weighed w (ss.map (Statement.move f)) = weighed w ss := by
  induction ss generalizing w with
  | nil => rfl
  | cons s ss ih => simp [weighed, Statement.move, ih]

theorem weighed_raise (n : Int) (w : Weight) (ss : List Statement) :
    weighed (w.raise n) ss = (weighed w ss).map (Element.raise n) := by
  induction ss generalizing w with
  | nil => rfl
  | cons s ss ih =>
    rw [weighed, Weight.next_raise, ih]
    rfl

/-- Statements that open a primary group get the weights they have by themselves, after the groups
before them. -/
theorem weighed_of_primary {rs : List Relation} (h : ss.map Statement.relation = .primary :: rs)
    (w : Weight) :
    weighed w ss = (weighed .beforeFirst ss).map (Element.raise (w.primary + 1)) := by
  cases ss with
  | nil => contradiction
  | cons s ss =>
    obtain ⟨hs, -⟩ := List.cons.inj h
    have hnext : w.next .primary = (Weight.beforeFirst.next .primary).raise (w.primary + 1) := by
      simp [Weight.next, Weight.raise, Weight.beforeFirst]
    rw [weighed, weighed, hs, hnext, weighed_raise]
    rfl

end Table

namespace Rule

variable {form : Option Form} {text : Text} {ss : List Statement}

/-- An accepted rule opens its first primary group, with or without an operator. -/
theorem led_primary_of_parse (h : parse form text = .ok ss) : led .primary ss = ss := by
  obtain ⟨rs, hrs⟩ := relations_of_parse h
  cases ss with
  | nil => rfl
  | cons s ss =>
    obtain ⟨hs, -⟩ := List.cons.inj hrs
    rw [led, List.modifyHead_cons, ← hs]

end Rule

namespace Tailoring

variable {form : Option Form} {a b : Text} {ss qs : List Statement}

/-- After `<`, the second table follows the first one, in primary groups of its own. -/
theorem elements_join (ha : Rule.parse form a = .ok ss) (hb : Rule.parse form b = .ok qs)
    (hfirst : (Text.stripLeft b).head? ≠ some Relation.primary.symbol)
    (h : List.Disjoint (ss.map Statement.element) (qs.map Statement.element)) :
    ∃ t u v, Tailoring.ofRules form a = .ok t ∧ Tailoring.ofRules form b = .ok u ∧
      Tailoring.ofRules form (a ++ Relation.primary.symbol :: b) = .ok v ∧
      v.table.elements =
        t.table.elements ++ u.table.elements.map (Element.raise (t.table.maxPrimary + 1)) := by
  have hparse := Rule.parse_append_of_disjoint ha hb hfirst .primary h
  have hnodup := (Rule.declared_of_parse hparse).nodup
  rw [Rule.led_primary_of_parse hb] at hparse hnodup
  obtain ⟨rs, hrs⟩ := Rule.relations_of_parse hb
  have hss := (Rule.declared_of_parse ha).nodup
  have hne : ss ≠ [] := List.reverse_ne_nil_iff.mp (Rule.reverse_ne_nil_of_parse ha)
  refine ⟨_, _, _, ofRules_of_parse ha, ofRules_of_parse hb, ofRules_of_parse hparse, ?_⟩
  change (Table.ofStatements _).elements = (Table.ofStatements _).elements ++
    (Table.ofStatements _).elements.map (Element.raise ((Table.ofStatements _).maxPrimary + 1))
  rw [Table.elements_ofStatements hnodup, Table.weighed_append, Table.weighed_move,
    Table.weighed_of_primary hrs, Table.elements_ofStatements hss,
    Table.elements_ofStatements (Rule.declared_of_parse hb).nodup,
    Table.maxPrimary_ofStatements hss hne]

/-- Two accepted rule texts, the second of which does not start with `<`, may stand on either side of
an operator. If no element is declared by both, this gives the statements of both, the first of the
second ones under that operator and all of the second ones moved to where they stand now; and after
`<` the second table follows the first one, its primary ranks raised above those. Else the first
element of the second text that the first one declares too is refused as a duplicate. -/
theorem rules_join (ha : Rule.parse form a = .ok ss) (hb : Rule.parse form b = .ok qs)
    (hfirst : (Text.stripLeft b).head? ≠ some '<') (r : Relation) :
    let joined := Rule.parse form (a ++ r.symbol :: b)
    let place := (a.length + 1 + ·)
    (List.Disjoint (ss.map Statement.element) (qs.map Statement.element) →
      joined = .ok (ss ++ (Rule.led r qs).map (Statement.move place)) ∧
      ∃ t u v, Tailoring.ofRules form a = .ok t ∧ Tailoring.ofRules form b = .ok u ∧
        Tailoring.ofRules form (a ++ '<' :: b) = .ok v ∧
        v.table.elements =
          t.table.elements ++ u.table.elements.map (Element.raise (t.table.maxPrimary + 1))) ∧
    (¬ List.Disjoint (ss.map Statement.element) (qs.map Statement.element) →
      ∃ before s after earlier, qs = before ++ s :: after ∧
        (∀ q ∈ before, q.element ∉ ss.map Statement.element) ∧
        earlier ∈ ss ∧ earlier.element = s.element ∧
        joined = .error ⟨.duplicate s.element earlier.position, place s.position⟩) := by
  refine ⟨fun h => ⟨?_, ?_⟩, fun h => ?_⟩
  · exact Rule.parse_append_of_disjoint ha hb hfirst r h
  · exact elements_join ha hb hfirst h
  · exact Rule.parse_append_of_shared ha hb hfirst r h

/-- Two letters with a tertiary difference. -/
def cased : List Statement :=
  [⟨.primary, ['a'], 0⟩, ⟨.tertiary, ['A'], 4⟩]

/-- Two letters, of which the second one is declared before too. -/
def repeated : List Statement :=
  [⟨.primary, ['b'], 0⟩, ⟨.secondary, ['a'], 4⟩]

theorem rules_join_letters :
    Rule.parse none ("a , A" ++ ';' :: "b < c") =
      .ok (cased ++ [⟨.secondary, ['b'], 6⟩, ⟨.primary, ['c'], 10⟩]) ∧
    (∃ v, Tailoring.ofRules none ("a , A" ++ '<' :: "b < c") = .ok v ∧
      v.table.elements = [⟨['a'], ⟨0, 0, 0⟩⟩, ⟨['A'], ⟨0, 0, 1⟩⟩, ⟨['b'], ⟨1, 0, 0⟩⟩,
        ⟨['c'], ⟨2, 0, 0⟩⟩]) ∧
    Rule.parse none ("a , A" ++ '=' :: "b ; a") = .error ⟨.duplicate ['a'] 0, 10⟩ := by
  have ha : Rule.parse none "a , A" = .ok cased := by decide +kernel
  have hb : Rule.parse none "b < c" = .ok [⟨.primary, ['b'], 0⟩, ⟨.primary, ['c'], 4⟩] := by
    decide +kernel
  have hshared : Rule.parse none "b ; a" = .ok repeated := by decide +kernel
  obtain ⟨hjoined, t, u, v, ht, hu, hv, helements⟩ :=
    (rules_join ha hb (by decide) .secondary).1 (by simp [cased])
  obtain ⟨before, s, after, earlier, hrepeated, hbefore, hearlier, heq, herror⟩ :=
    (rules_join ha hshared (by decide) .same).2 (by simp [cased, repeated])
  refine ⟨hjoined, ⟨v, hv, ?_⟩, ?_⟩
  · obtain rfl := Except.ok.inj ((ofRules_of_parse ha).symm.trans ht)
    obtain rfl := Except.ok.inj ((ofRules_of_parse hb).symm.trans hu)
    exact helements.trans (by decide)
  · match before, hrepeated with
    | [], hrepeated =>
      obtain ⟨rfl, -⟩ := List.cons.inj hrepeated
      have hnew : ∀ e ∈ cased, e.element ≠ ['b'] := by decide
      exact absurd heq (hnew earlier hearlier)
    | [_], hrepeated =>
      obtain ⟨rfl, -⟩ := List.cons.inj (List.cons.inj hrepeated).2
      have hfirst : ∀ e ∈ cased, e.element = ['a'] → e.position = 0 := by decide
      rw [hfirst earlier hearlier heq] at herror
      exact herror
    | _ :: _ :: before, hrepeated =>
      simp [repeated] at hrepeated

end Tailoring

end Collation
