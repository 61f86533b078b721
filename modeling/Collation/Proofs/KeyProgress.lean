import Collation.Collator
import Collation.Proofs.Normalization
import Collation.Proofs.RecoveredRules
import Collation.Proofs.Table.Weighing

/-! No rule text makes a table under which the weighing of a text does not end. A scan reads no empty
operand, whatever pieces it is put together from, and no form makes an operand empty. -/

namespace Collation

namespace Rule

variable {form : Option Form} {n k : Nat} {text rest x literal : Text} {items : List Item}
  {ts : List Token} {ss : List Statement} {s : Statement}

theorem Piece.literal_ne_nil {p : Piece} (hp : p.Fits rest) : p.literal ≠ [] := by
  cases p with
  | plain c => exact List.cons_ne_nil c []
  | apostrophe => exact List.cons_ne_nil quote []
  | quoted run => exact hp.1

theorem mem_joinLiteral (h : .operand x k ∈ joinLiteral n literal ts) :
    literal <+: x ∨ .operand x k ∈ ts := by
  unfold joinLiteral at h
  split at h
  · rcases List.mem_cons.mp h with heq | h
    · obtain ⟨rfl, -⟩ := Token.operand.inj heq
      exact Or.inl (List.prefix_append _ _)
    · exact Or.inr (List.mem_cons_of_mem _ h)
  · rcases List.mem_cons.mp h with heq | h
    · obtain ⟨rfl, -⟩ := Token.operand.inj heq
      exact Or.inl List.prefix_rfl
    · exact Or.inr h

/-- Each operand begins with the literal of a piece. -/
theorem operand_ne_nil (h : Divides n text items) (hx : .operand x k ∈ tokens items) : x ≠ [] := by
  induction h with
  | done => contradiction
  | space _ _ ih => exact ih hx
  | operator r _ ih =>
    rcases List.mem_cons.mp hx with heq | hx
    · contradiction
    · exact ih hx
  | piece p hp _ ih =>
    rcases mem_joinLiteral hx with hbegins | hx
    · rintro rfl
      exact p.literal_ne_nil hp (List.prefix_nil.mp hbegins)
    · exact ih hx

theorem exists_operand_of_pairs (h : Pairs form ts ss) (hs : s ∈ ss) :
    ∃ x k, .operand x k ∈ ts ∧ s.element = normalize form x := by
  induction h with
  | nil => contradiction
  | cons r n x start _ ih =>
    rcases List.mem_cons.mp hs with rfl | hs
    · exact ⟨x, start, by simp, rfl⟩
    · obtain ⟨y, k, hy, helement⟩ := ih hs
      exact ⟨y, k, by simp [hy], helement⟩

/-- The element of each statement is an operand that has been put into the form. -/
theorem exists_operand_of_reads (h : Reads form ts ss) (hs : s ∈ ss) :
    ∃ x k, .operand x k ∈ ts ∧ s.element = normalize form x := by
  cases h with
  | led h => exact exists_operand_of_pairs h hs
  | bare x start h =>
    rcases List.mem_cons.mp hs with rfl | hs
    · exact ⟨x, start, List.mem_cons_self, rfl⟩
    · obtain ⟨y, k, hy, helement⟩ := exists_operand_of_pairs h hs
      exact ⟨y, k, List.mem_cons_of_mem _ hy, helement⟩

theorem element_ne_nil_of_parse (h : parse form text = .ok ss) (hs : s ∈ ss) : s.element ≠ [] := by
  obtain ⟨items, hitems, hreads, -⟩ := parse_eq_ok_iff.mp h
  obtain ⟨x, k, hx, helement⟩ := exists_operand_of_reads hreads hs
  rw [helement, Ne, normalize_eq_nil_iff]
  exact operand_ne_nil hitems hx

end Rule

theorem Table.text_ne_nil_of_statements {ss : List Statement}
    (hnodup : (ss.map Statement.element).Nodup) (hne : ∀ s ∈ ss, s.element ≠ []) :
    ∀ e ∈ (Table.ofStatements ss).elements, e.text ≠ [] := by
  intro e he
  rw [elements_ofStatements hnodup] at he
  have htext : e.text ∈ ss.map Statement.element := by
    rw [← texts_weighed .beforeFirst ss]
    exact List.mem_map_of_mem he
  obtain ⟨s, hs, heq⟩ := List.mem_map.mp htext
  rw [← heq]
  exact hne s hs

namespace Tailoring

variable {setting : FormSetting} {r : Option Text} {t : Tailoring}

theorem exists_of_ofSetting (h : Tailoring.ofSetting setting r = .ok t) :
    ∃ ss, Rule.parseSetting setting r = .ok ss ∧ t.table = .ofStatements ss := by
  obtain ⟨ss, hss, ht⟩ := bind_eq_ok h
  obtain rfl := Except.ok.inj ht
  exact ⟨ss, hss, rfl⟩

/-- An accepted rule text declares no empty element. Under the table that it makes, at each place of
a text before its end, counted from either end, something is found that is at least one character
long and not longer than what is left from there on. So every text is weighed in at most as many
passes as it has characters. -/
theorem weighing_ends_of_rules (h : Tailoring.ofSetting setting r = .ok t) :
    (∃ ss, Rule.parseSetting setting r = .ok ss ∧ t.table = .ofStatements ss ∧
      ∀ s ∈ ss, s.element ≠ []) ∧
    ∀ text : Text,
      (∀ i : Int, -text.length ≤ i → i < text.length →
        ∃ w n, t.table.matchAt? text i = some (w, n) ∧ 1 ≤ n ∧ (n : Int) ≤ text.length - i) ∧
      ∀ n, text.length ≤ n → t.table.weighWithin text n = some (.ok (t.table.weigh text)) := by
  obtain ⟨ss, hss, htable⟩ := exists_of_ofSetting h
  obtain ⟨form, hparse⟩ := Rule.exists_parse_of_parseSetting hss
  have helements : ∀ s ∈ ss, s.element ≠ [] := fun s hs => Rule.element_ne_nil_of_parse hparse hs
  have hne : ∀ e ∈ t.table.elements, e.text ≠ [] := by
    rw [htable]
    exact Table.text_ne_nil_of_statements (Rule.declared_of_parse hparse).nodup helements
  refine ⟨⟨ss, hss, htable, helements⟩, ?_⟩
  intro text
  constructor
  · intro i hlow hlt
    exact Table.exists_matchAt? hne hlow hlt
  · intro n hn
    exact Table.weighWithin_of_length_le hne hn

/-- A run that ends with its own quote, after which nothing more is quoted. -/
def quoteEndedStatements : List Statement :=
  [⟨.primary, ['a', Rule.quote], 1⟩, ⟨.primary, ['b'], 9⟩]

theorem weighing_ends_of_rules_quoted :
    ∃ t, Tailoring.ofSetting .off (some "<'a''' < b") = .ok t ∧
      t.table.weighWithin "ba'x" 4 = some (.ok [⟨1, 0, 0⟩, ⟨0, 0, 0⟩, ⟨122, 0, 0⟩]) := by
  have hparse : Rule.parse none "<'a''' < b" = .ok quoteEndedStatements := by decide +kernel
  have hsetting : Rule.parseSetting .off (some "<'a''' < b") = .ok quoteEndedStatements :=
    (Rule.parseSetting_eq_ok_iff rfl).mpr hparse
  have h : Tailoring.ofSetting .off (some "<'a''' < b") =
      .ok ⟨.ofStatements quoteEndedStatements, none⟩ := by
    rw [Tailoring.ofSetting, hsetting]
    rfl
  have hweigh : (Table.ofStatements quoteEndedStatements).weigh "ba'x" =
      [⟨1, 0, 0⟩, ⟨0, 0, 0⟩, ⟨122, 0, 0⟩] := by decide +kernel
  obtain ⟨-, hends⟩ := weighing_ends_of_rules h
  refine ⟨_, h, ?_⟩
  rw [(hends "ba'x").2 4 (by decide), hweigh]

end Tailoring

end Collation
