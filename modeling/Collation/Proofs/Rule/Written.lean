import Collation.Proofs.Rule.Acceptance

/-! Rules in writing: every list of relations and elements can be written as a rule text, from
which it is read back. -/

namespace Collation.Rule

variable {form : Option Form} {n : Nat} {e rest text : Text} {ts : List Token} {items : List Item}

/-- An element between quotes, or without them if it is made of quotes only. Its own quotes are
doubled either way. -/
def writtenElement (e : Text) : Text :=
  if e.all (· = quote) then doubled e else quote :: doubled e ++ [quote]

/-- Each operator with the element after it. -/
def writtenRules (pairs : List (Relation × Text)) : Text :=
  pairs.flatMap fun (r, e) => r.symbol :: writtenElement e

/-- The text at a position divides into pieces of a literal and what makes up `ts`. -/
def Spells (n : Nat) (text literal : Text) (ts : List Token) : Prop :=
  ∃ items, Divides n text items ∧ tokens items = joinLiteral n literal ts

theorem spells_piece {p : Piece} (hp : p.Fits rest)
    (h : Divides (n + p.written.length) rest items) :
    Spells n (p.written ++ rest) p.literal (tokens items) :=
  ⟨_, .piece p hp h, rfl⟩

theorem spells_quote (h : Spells (n + 2) text e ts) :
    Spells n (quote :: quote :: text) (quote :: e) ts := by
  obtain ⟨items, hitems, htokens⟩ := h
  refine ⟨_, .piece .apostrophe trivial hitems, ?_⟩
  rw [tokens, htokens, joinLiteral_joinLiteral]
  rfl

theorem spells_quotes (hquotes : ∀ c ∈ e, c = quote) (he : e ≠ [])
    (h : Divides (n + (doubled e).length) rest items) :
    Spells n (doubled e ++ rest) e (tokens items) := by
  induction e generalizing n with
  | nil => exact absurd rfl he
  | cons c e ih =>
    obtain ⟨rfl, hrest⟩ := List.forall_mem_cons.mp hquotes
    rw [doubled_quote] at h ⊢
    by_cases hnil : e = []
    · subst hnil
      exact spells_piece (p := .apostrophe) trivial h
    · refine spells_quote (ih hrest hnil ?_)
      have hlength : n + (quote :: quote :: doubled e).length = n + 2 + (doubled e).length := by
        simp only [List.length_cons]
        omega
      rwa [hlength] at h

/-- In an element between quotes, each quote at the beginning takes the opening quote of the run
before it and leaves one for the rest. -/
theorem spells_quoted (hother : ∃ c ∈ e, c ≠ quote) (hend : rest.head? ≠ some quote)
    (h : Divides (n + (quote :: doubled e ++ [quote]).length) rest items) :
    Spells n (quote :: doubled e ++ [quote] ++ rest) e (tokens items) := by
  induction e generalizing n with
  | nil => simp at hother
  | cons c e ih =>
    by_cases hc : c = quote
    · subst hc
      have hlength : n + (quote :: doubled (quote :: e) ++ [quote]).length =
          n + 2 + (quote :: doubled e ++ [quote]).length := by
        simp only [doubled_quote, List.length_cons, List.length_append]
        omega
      rw [hlength] at h
      have hrest : ∃ c ∈ e, c ≠ quote := by simpa using hother
      exact spells_quote (ih hrest h)
    · have hfits : (Piece.quoted (c :: e)).Fits rest :=
        ⟨List.cons_ne_nil c e, fun hfirst => hc (Option.some.inj hfirst), hend⟩
      exact spells_piece hfits h

theorem spells_writtenElement (he : e ≠ []) (hend : rest.head? ≠ some quote)
    (h : Divides (n + (writtenElement e).length) rest items) :
    Spells n (writtenElement e ++ rest) e (tokens items) := by
  unfold writtenElement at h ⊢
  split at h
  · next hquotes =>
    rw [if_pos hquotes]
    exact spells_quotes (by simpa using hquotes) he h
  · next hquotes =>
    rw [if_neg hquotes]
    exact spells_quoted (by simpa using hquotes) hend h

theorem head?_writtenRules (pairs : List (Relation × Text)) :
    (writtenRules pairs).head? ≠ some quote := by
  cases pairs with
  | nil => simp [writtenRules]
  | cons p pairs => exact fun h => p.1.symbol_ne_quote (Option.some.inj h)

theorem joinLiteral_of_pairs {ss : List Statement} (h : Pairs form ts ss) (n : Nat) (e : Text) :
    joinLiteral n e ts = .operand e n :: ts := by
  cases h <;> rfl

/-- Written rules divide into pairs of an operator and its element. -/
theorem pairs_writtenRules (pairs : List (Relation × Text)) (n : Nat)
    (hne : ∀ p ∈ pairs, p.2 ≠ []) (hnormal : ∀ p ∈ pairs, normalize form p.2 = p.2) :
    ∃ items ss, Divides n (writtenRules pairs) items ∧ Pairs form (tokens items) ss ∧
      ss.map (fun s => (s.relation, s.element)) = pairs := by
  induction pairs generalizing n with
  | nil => exact ⟨[], [], .done, .nil, rfl⟩
  | cons p pairs ih =>
    obtain ⟨r, e⟩ := p
    obtain ⟨he, hne⟩ := List.forall_mem_cons.mp hne
    obtain ⟨hnormale, hnormal⟩ := List.forall_mem_cons.mp hnormal
    obtain ⟨items, ss, hitems, hpairs, hss⟩ := ih (n + 1 + (writtenElement e).length) hne hnormal
    obtain ⟨items', hitems', htokens⟩ :=
      spells_writtenElement he (head?_writtenRules pairs) hitems
    rw [joinLiteral_of_pairs hpairs] at htokens
    refine ⟨.operator r n :: items', ⟨r, normalize form e, n + 1⟩ :: ss, ?_, ?_, ?_⟩
    · exact .operator r hitems'
    · rw [tokens, htokens]
      exact .cons r n e (n + 1) hpairs
    · rw [List.map_cons, hss, hnormale]

theorem reads_of_pairs {ss : List Statement} (h : Pairs form ts ss)
    (hfirst : ss.head?.map Statement.relation = some .primary) : Reads form ts ss := by
  cases h with
  | nil => contradiction
  | cons r n text start h =>
    obtain rfl : r = .primary := Option.some.inj hfirst
    exact .led (.cons .primary n text start h)

/-- Rules that start with a primary group, and whose elements are not empty, pairwise different and
in normal form, are read back from their writing. -/
theorem parseSetting_writtenRules {s : FormSetting} (hs : s.form? = some form)
    (pairs : List (Relation × Text)) (hfirst : pairs.head?.map Prod.fst = some .primary)
    (hne : ∀ p ∈ pairs, p.2 ≠ []) (hnodup : (pairs.map Prod.snd).Nodup)
    (hnormal : ∀ p ∈ pairs, normalize form p.2 = p.2) :
    ∃ ss, parseSetting s (some (writtenRules pairs)) = .ok ss ∧
      ss.map (fun s => (s.relation, s.element)) = pairs := by
  obtain ⟨items, ss, hitems, hpairs, hss⟩ := pairs_writtenRules pairs 0 hne hnormal
  have hrelation : ss.head?.map Statement.relation = some .primary := by
    rw [← hss, List.head?_map, Option.map_map] at hfirst
    exact hfirst
  have helements : (ss.map Statement.element).Nodup := by
    rw [← hss, List.map_map] at hnodup
    exact hnodup
  have hparse : parse form (writtenRules pairs) = .ok ss :=
    parse_eq_ok_iff.mpr ⟨items, hitems, reads_of_pairs hpairs hrelation, helements⟩
  exact ⟨ss, (parseSetting_eq_ok_iff hs).mpr hparse, hss⟩

/-- Quotes only, quotes at both ends and in the middle, and elements of operators and white
space. -/
def apostrophePairs : List (Relation × Text) :=
  [(.primary, "''"), (.tertiary, "''a'b'"), (.same, "<;\n"), (.secondary, " ")]

theorem writtenRules_apostrophePairs :
    writtenRules apostrophePairs = "<'''','''''a''b'''='<;\n';' '" ∧
    ∃ ss, parseSetting .off (some (writtenRules apostrophePairs)) = .ok ss ∧
      ss.map (fun s => (s.relation, s.element)) = apostrophePairs := by
  refine ⟨by decide, parseSetting_writtenRules (s := .off) rfl apostrophePairs rfl ?_ ?_ ?_⟩
  · decide
  · decide
  · exact fun _ _ => rfl

end Collation.Rule
