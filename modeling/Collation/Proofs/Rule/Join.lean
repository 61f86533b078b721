import Collation.Proofs.Lookup
import Collation.Proofs.Rule.Acceptance
import Collation.Proofs.Rule.Place
import Collation.Proofs.Rule.Position

/-! Two rule texts with an operator between them. The scan of the first one ends at the operator as at
the end of the text, so that the statements of both stand one after the other, if no element is
declared by both. -/

namespace Collation.Rule

/-- Statements of which the first one follows what is before by a given relation. -/
def led (r : Relation) (ss : List Statement) : List Statement :=
  ss.modifyHead fun s => { s with relation := r }

variable {form : Option Form} {a b text : Text} {ss qs before after new : List Statement}
  {s earlier : Statement} {ts : List Token} {items : List Item} {r : Relation} {n : Nat}
  {p : Progress}

theorem map_element_led (r : Relation) (ss : List Statement) :
    (led r ss).map Statement.element = ss.map Statement.element := by
  cases ss <;> rfl

theorem map_element_move (f : Nat → Nat) (ss : List Statement) :
    (ss.map (Statement.move f)).map Statement.element = ss.map Statement.element := by
  rw [List.map_map]
  rfl

/-- An operator ends the last operand of the text before it, and what follows is scanned anew. -/
theorem scan_append_operator (h : (scan a).fault = none) (r : Relation) (b : Text) :
    scan (a ++ r.symbol :: b) =
      (scanFrom (a.length + 1) none b).prepend ((scan a).tokens ++ [.operator r a.length]) := by
  obtain ⟨ts, held, -, -, hscan⟩ :=
    scanFrom_of_passes (passes_of_fault_eq_none h) (Nat.zero_add a.length) (before_none 0)
  have hend : scan a = ⟨ts ++ held.tokens, none⟩ := by
    have hnil := hscan [] id
    rw [List.append_nil, scanFrom] at hnil
    exact hnil
  have hquote : (r.symbol :: b).head? = some quote → ([] : Text).head? = some quote :=
    fun hquote => absurd (Option.some.inj hquote) r.symbol_ne_quote
  rw [hend, scan, hscan _ hquote, scanFrom_operator, Scan.prepend_prepend, List.append_assoc]

/-! What a text starts with, after white space. -/

theorem tokens_piece (p : Piece) (n : Nat) (items : List Item) :
    ∃ text ts, tokens (.piece p n :: items) = .operand text n :: ts := by
  rw [tokens]
  unfold joinLiteral
  split <;> exact ⟨_, _, rfl⟩

theorem head?_stripLeft (h : Divides n text items) {k : Nat}
    (htokens : tokens items = .operator r k :: ts) :
    (Text.stripLeft text).head? = some r.symbol := by
  induction h with
  | done => contradiction
  | space hc _ ih =>
    rw [Text.stripLeft, List.dropWhile_cons_of_pos hc]
    exact ih htokens
  | operator q _ _ =>
    obtain ⟨htoken, -⟩ := List.cons.inj htokens
    obtain ⟨rfl, -⟩ := Token.operator.inj htoken
    rw [Text.stripLeft, List.dropWhile_cons_of_neg (by simp [isSpace_symbol])]
    rfl
  | @piece n rest items p _ _ _ =>
    obtain ⟨operand, us, hoperand⟩ := tokens_piece p n items
    rw [hoperand] at htokens
    exact Token.noConfusion (List.cons.inj htokens).1

/-- A rule that does not start with an operator may follow any operator. -/
theorem pairs_led (h : Divides n text items) (hreads : Reads form (tokens items) qs)
    (hfirst : (Text.stripLeft text).head? ≠ some Relation.primary.symbol) (r : Relation) (k : Nat)
    (f : Nat → Nat) :
    Pairs form (.operator r k :: (tokens items).map (Token.move f))
      ((led r qs).map (Statement.move f)) := by
  generalize htokens : tokens items = ts at hreads
  cases hreads with
  | led _ => exact absurd (head?_stripLeft h htokens) hfirst
  | bare operand start hpairs => exact .cons r k operand (f start) (hpairs.move f)

/-! Pairs after statements that are accepted. -/

theorem pairs_append (h : Pairs form ts (before ++ after)) :
    ∃ us vs, ts = us ++ vs ∧ Pairs form us before ∧ Pairs form vs after := by
  induction before generalizing ts with
  | nil => exact ⟨[], ts, rfl, .nil, h⟩
  | cons s before ih =>
    cases h with
    | cons r n text start h =>
      obtain ⟨us, vs, rfl, hbefore, hafter⟩ := ih h
      exact ⟨_, vs, rfl, .cons r n text start hbefore, hafter⟩

/-- The first element that is declared already is refused. -/
theorem steps_of_pairs_duplicate (h : Pairs form ts (before ++ s :: after))
    (hpending : p.pending = none) (hp : p.statements ≠ [])
    (hnodup : ((before.reverse ++ p.statements).map Statement.element).Nodup)
    (hearlier : earlier ∈ before.reverse ++ p.statements) (heq : earlier.element = s.element) :
    ts.foldlM (Progress.step form) p =
      .error ⟨.duplicate s.element earlier.position, s.position⟩ := by
  obtain ⟨us, vs, rfl, hbefore, hafter⟩ := pairs_append h
  have hsteps := steps_of_pairs hbefore hpending (fun hnil => absurd hnil hp) hnodup
  rw [List.foldlM_append, hsteps]
  cases hafter with
  | cons r n text start h =>
    have hoperator : Progress.step form ⟨before.reverse ++ p.statements, none⟩ (.operator r n) =
        .ok ⟨before.reverse ++ p.statements, some (r, n)⟩ :=
      step_operator rfl fun hnil => absurd (List.append_eq_nil_iff.mp hnil).2 hp
    change List.foldlM (Progress.step form) ⟨before.reverse ++ p.statements, none⟩ _ = _
    rw [foldlM_step_cons hoperator, List.foldlM_cons]
    have hfind := find?_of_nodup_map hnodup hearlier
    rw [heq] at hfind
    simp only [Progress.step, hfind]
    rfl

/-- Only the relation of the first statement is another one. -/
theorem led_append_cons (r : Relation) (before after : List Statement) (s : Statement) :
    ∃ before' s' after', led r (before ++ s :: after) = before' ++ s' :: after' ∧
      before'.map Statement.element = before.map Statement.element ∧
      s'.element = s.element ∧ s'.position = s.position := by
  cases before with
  | nil => exact ⟨[], { s with relation := r }, after, rfl, rfl, rfl, rfl⟩
  | cons q before =>
    exact ⟨{ q with relation := r } :: before, s, after, rfl, rfl, rfl, rfl⟩

/-- Unless the elements are all different, one of the second statements is the first to share its
element. -/
theorem exists_first_shared
    (h : ¬ List.Disjoint (ss.map Statement.element) (qs.map Statement.element)) :
    ∃ before s after earlier, qs = before ++ s :: after ∧
      (∀ q ∈ before, q.element ∉ ss.map Statement.element) ∧
      earlier ∈ ss ∧ earlier.element = s.element := by
  induction qs with
  | nil => exact absurd (List.disjoint_nil_right _) h
  | cons q qs ih =>
    by_cases hq : q.element ∈ ss.map Statement.element
    · obtain ⟨earlier, hearlier, heq⟩ := List.mem_map.mp hq
      exact ⟨[], q, qs, earlier, rfl, by simp, hearlier, heq⟩
    · rw [List.map_cons, List.disjoint_cons_right, not_and] at h
      obtain ⟨before, s, after, earlier, rfl, hbefore, hearlier⟩ := ih (h hq)
      exact ⟨q :: before, s, after, earlier, rfl, List.forall_mem_cons.mpr ⟨hq, hbefore⟩, hearlier⟩

theorem judge_of_fault_eq_none (ts : List Token) :
    judge form ⟨ts, none⟩ =
      ts.foldlM (Progress.step form) Progress.start >>= Progress.finish := rfl

/-- Once the statements of the first text are read, the parser reads those of the second one. -/
theorem parse_append (ha : parse form a = .ok ss) (hb : parse form b = .ok qs)
    (hfirst : (Text.stripLeft b).head? ≠ some Relation.primary.symbol) (r : Relation) :
    ∃ ts, Pairs form ts ((led r qs).map (Statement.move (a.length + 1 + ·))) ∧
      parse form (a ++ r.symbol :: b) =
        ts.foldlM (Progress.step form) ⟨ss.reverse, none⟩ >>= Progress.finish := by
  obtain ⟨⟨read, pending⟩, hp, hfault, hpending, rfl⟩ := judge_eq_ok (parse_eq_ok ha).2
  obtain rfl : pending = none := hpending
  obtain ⟨items, hitems, hreads, -⟩ := parse_eq_ok_iff.mp hb
  have hblank : ¬ Text.isBlank (a ++ r.symbol :: b) = true := by
    simp [Text.isBlank, isSpace_symbol]
  have hscan : scan (a ++ r.symbol :: b) = ⟨(scan a).tokens ++
      .operator r a.length :: (tokens items).map (Token.move (a.length + 1 + ·)), none⟩ := by
    rw [scan_append_operator hfault, scanFrom_eq_move_scan, scan_of_divides hitems]
    simp [Scan.move, Scan.prepend]
  refine ⟨_, pairs_led hitems hreads hfirst r a.length (a.length + 1 + ·), ?_⟩
  rw [parse, if_neg hblank, hscan, judge_of_fault_eq_none, List.foldlM_append, hp,
    List.reverse_reverse]
  rfl

theorem reverse_ne_nil_of_parse (h : parse form text = .ok ss) : ss.reverse ≠ [] := by
  obtain ⟨rs, hrs⟩ := relations_of_parse h
  rintro hnil
  rw [List.reverse_eq_nil_iff.mp hnil] at hrs
  contradiction

theorem nodup_append_reverse (hss : (ss.map Statement.element).Nodup)
    (hqs : (qs.map Statement.element).Nodup)
    (h : List.Disjoint (ss.map Statement.element) (qs.map Statement.element))
    (hnew : new.map Statement.element = qs.map Statement.element) :
    ((new.reverse ++ ss.reverse).map Statement.element).Nodup := by
  rw [← List.reverse_append, List.map_reverse, List.nodup_reverse, List.map_append, hnew]
  exact hss.append hqs h

section

variable (ha : parse form a = .ok ss) (hb : parse form b = .ok qs)
  (hfirst : (Text.stripLeft b).head? ≠ some Relation.primary.symbol) (r : Relation)

include ha hb hfirst

theorem parse_append_of_disjoint
    (h : List.Disjoint (ss.map Statement.element) (qs.map Statement.element)) :
    parse form (a ++ r.symbol :: b) =
      .ok (ss ++ (led r qs).map (Statement.move (a.length + 1 + ·))) := by
  obtain ⟨ts, hpairs, hparse⟩ := parse_append ha hb hfirst r
  have hnodup := nodup_append_reverse (declared_of_parse ha).nodup (declared_of_parse hb).nodup h
    ((map_element_move (a.length + 1 + ·) (led r qs)).trans (map_element_led r qs))
  have hsteps := steps_of_pairs (p := ⟨ss.reverse, none⟩) hpairs rfl
    (fun hnil => absurd hnil (reverse_ne_nil_of_parse ha)) hnodup
  rw [hparse, hsteps]
  change Except.ok (List.reverse _) = _
  rw [← List.reverse_append, List.reverse_reverse]

/-- The first element of the second text that the first one declares too is refused. -/
theorem parse_append_of_shared
    (h : ¬ List.Disjoint (ss.map Statement.element) (qs.map Statement.element)) :
    ∃ before s after earlier, qs = before ++ s :: after ∧
      (∀ q ∈ before, q.element ∉ ss.map Statement.element) ∧
      earlier ∈ ss ∧ earlier.element = s.element ∧
      parse form (a ++ r.symbol :: b) =
        .error ⟨.duplicate s.element earlier.position, a.length + 1 + s.position⟩ := by
  obtain ⟨before, s, after, earlier, rfl, hbefore, hearlier, heq⟩ := exists_first_shared h
  refine ⟨before, s, after, earlier, rfl, hbefore, hearlier, heq, ?_⟩
  obtain ⟨ts, hpairs, hparse⟩ := parse_append ha hb hfirst r
  obtain ⟨before', s', after', hled, hbefore', hs', hposition⟩ := led_append_cons r before after s
  rw [hled, List.map_append, List.map_cons] at hpairs
  have hqs := (declared_of_parse hb).nodup
  rw [List.map_append] at hqs
  -- What comes before the shared element is accepted, and the earlier statement is found again.
  have hdisjoint : List.Disjoint (ss.map Statement.element) (before.map Statement.element) := by
    intro x hx hmem
    obtain ⟨q, hq, rfl⟩ := List.mem_map.mp hmem
    exact hbefore q hq hx
  have hnodup := nodup_append_reverse (declared_of_parse ha).nodup hqs.of_append_left hdisjoint
    ((map_element_move (a.length + 1 + ·) before').trans hbefore')
  have hmem : earlier ∈ (before'.map (Statement.move (a.length + 1 + ·))).reverse ++ ss.reverse :=
    List.mem_append_right _ (List.mem_reverse.mpr hearlier)
  have hsteps := steps_of_pairs_duplicate (p := ⟨ss.reverse, none⟩) hpairs rfl
    (reverse_ne_nil_of_parse ha) hnodup hmem (heq.trans hs'.symm)
  rw [hparse, hsteps, ← hs', ← hposition]
  rfl

end

end Collation.Rule
