import Mathlib.Data.List.Chain
import Collation.Proofs.Rule.Grammar
import Collation.Proofs.Rule.Refusal
import Collation.Setting

/-! The rule texts that are accepted are those of the grammar, and their statements are the ones
that the grammar gives them. -/

namespace Collation.Rule

variable {form : Option Form} {p q : Progress} {token : Token} {ts : List Token}
  {ss new : List Statement} {items : List Item} {text : Text} {r : Relation} {n : Nat}

def Token.isOperand : Token → Bool
  | .operator _ _ => false
  | .operand _ _ => true

/-- No operand stands next to another one. -/
def Separated (ts : List Token) : Prop :=
  ts.IsChain fun a b => a.isOperand = true → b.isOperand = false

theorem separated_joinLiteral (n : Nat) (literal : Text) (h : Separated ts) :
    Separated (joinLiteral n literal ts) := by
  cases ts with
  | nil => exact .singleton _
  | cons token ts =>
    cases token with
    | operator r k => exact .cons_cons (fun _ => rfl) h
    | operand text k =>
      obtain ⟨hnext, hts⟩ := List.isChain_cons.mp h
      exact .cons hts hnext

theorem separated_tokens (items : List Item) : Separated (tokens items) := by
  induction items with
  | nil => exact .nil
  | cons item items ih =>
    cases item with
    | operator r n => exact .cons ih fun _ _ h => Bool.noConfusion h
    | piece p n => exact separated_joinLiteral n p.literal ih

theorem tokens_eq_nil_iff : tokens items = [] ↔ items = [] := by
  cases items with
  | nil => simp [tokens]
  | cons item items =>
    cases item with
    | operator r n => simp [tokens]
    | piece p n =>
      rw [tokens]
      unfold joinLiteral
      split <;> simp

/-! The parser's steps along pairs of operator and operand. -/

theorem step_operator (hpending : p.pending = none) (hlead : p.statements = [] → r = .primary) :
    Progress.step form p (.operator r n) = .ok ⟨p.statements, some (r, n)⟩ := by
  unfold Progress.step
  rw [hpending]
  cases hs : p.statements with
  | nil => simp [hlead hs]
  | cons s ss => simp

theorem step_operand (hnew : ∀ s ∈ p.statements, s.element ≠ normalize form text) :
    Progress.step form p (.operand text n) =
      .ok ⟨⟨(p.pending.map Prod.fst).getD .primary, normalize form text, n⟩ :: p.statements,
        none⟩ := by
  have hfind : p.statements.find? (·.element = normalize form text) = none := by
    simpa using hnew
  simp only [Progress.step, hfind]

/-- The tokens to come, after the operator that waits for its element if there is one. -/
def Progress.resume (p : Progress) (ts : List Token) : List Token :=
  match p.pending with
  | none => ts
  | some (r, n) => .operator r n :: ts

/-- Once an operator or an operand has been read, accepted tokens complete pairs. -/
theorem pairs_of_steps (h : ts.foldlM (Progress.step form) p = .ok q) (hq : q.pending = none)
    (hts : Separated ts)
    (hp : p.pending = none → ∀ token ∈ ts.head?, token.isOperand = false) :
    ∃ new, q.statements = new.reverse ++ p.statements ∧ Pairs form (p.resume ts) new := by
  induction ts generalizing p with
  | nil =>
    obtain rfl : p = q := Except.ok.inj h
    refine ⟨[], rfl, ?_⟩
    rw [Progress.resume, hq]
    exact .nil
  | cons token ts ih =>
    rw [List.foldlM_cons] at h
    obtain ⟨p', hstep, h⟩ := bind_eq_ok h
    obtain ⟨hnext, htail⟩ := List.isChain_cons.mp hts
    obtain ⟨r, n, rfl, hpending, -, rfl⟩ | ⟨text, start, rfl, -, rfl⟩ :=
      Progress.step_cases hstep
    · -- The operator is put back in front of the tokens after it, until its operand is read.
      obtain ⟨new, hnew, hpairs⟩ := ih h htail (by simp)
      refine ⟨new, hnew, ?_⟩
      rw [Progress.resume, hpending]
      exact hpairs
    · obtain ⟨new, hnew, hpairs⟩ := ih h htail fun _ token htoken => hnext token htoken rfl
      cases hpending : p.pending with
      | none => exact absurd (hp hpending _ rfl) (by simp [Token.isOperand])
      | some waiting =>
        obtain ⟨r, n⟩ := waiting
        rw [hpending] at hnew
        refine ⟨⟨r, normalize form text, start⟩ :: new, by simpa using hnew, ?_⟩
        rw [Progress.resume, hpending]
        exact .cons r n text start hpairs

/-- Pairs with new elements are accepted. -/
theorem steps_of_pairs (h : Pairs form ts new) (hpending : p.pending = none)
    (hlead : p.statements = [] → ∀ s ∈ new.head?, s.relation = .primary)
    (hnodup : ((new.reverse ++ p.statements).map Statement.element).Nodup) :
    ts.foldlM (Progress.step form) p = .ok ⟨new.reverse ++ p.statements, none⟩ := by
  induction h generalizing p with
  | nil =>
    obtain ⟨ss, pending⟩ := p
    obtain rfl : pending = none := hpending
    rfl
  | @cons ts ss r n text start _ ih =>
    rw [List.reverse_cons, List.append_assoc, List.singleton_append] at hnodup ⊢
    have hoperator : Progress.step form p (.operator r n) = .ok ⟨p.statements, some (r, n)⟩ :=
      step_operator hpending fun hs => hlead hs _ rfl
    have hnew : ∀ s ∈ p.statements, s.element ≠ normalize form text := by
      rw [List.map_append, List.nodup_append, List.map_cons, List.nodup_cons, List.mem_map]
        at hnodup
      exact fun s hs heq => hnodup.2.1.1 ⟨s, hs, heq⟩
    have hoperand : Progress.step form ⟨p.statements, some (r, n)⟩ (.operand text start) =
        .ok ⟨⟨r, normalize form text, start⟩ :: p.statements, none⟩ := step_operand hnew
    rw [foldlM_step_cons hoperator, foldlM_step_cons hoperand]
    exact ih rfl (by simp) hnodup

theorem reads_of_judge (h : judge form ⟨ts, none⟩ = .ok ss) (hts : Separated ts) (hne : ts ≠ []) :
    Reads form ts ss := by
  obtain ⟨q, hq, -, hpending, rfl⟩ := judge_eq_ok h
  cases ts with
  | nil => contradiction
  | cons token ts =>
    obtain ⟨p, hstep, hq⟩ := bind_eq_ok ((List.foldlM_cons ..).symm.trans hq)
    obtain ⟨hnext, htail⟩ := List.isChain_cons.mp hts
    -- The operator before the first operand is there, or is left out.
    obtain ⟨r, n, rfl, -, hlead, rfl⟩ | ⟨text, start, rfl, -, rfl⟩ := Progress.step_cases hstep
    · obtain rfl : r = .primary := hlead rfl
      obtain ⟨new, hnew, hpairs⟩ := pairs_of_steps hq hpending htail (by simp)
      have hss : q.statements.reverse = new := by simp [hnew, Progress.start]
      rw [hss]
      exact .led hpairs
    · obtain ⟨new, hnew, hpairs⟩ :=
        pairs_of_steps hq hpending htail fun _ token htoken => hnext token htoken rfl
      have hss : q.statements.reverse = ⟨.primary, normalize form text, start⟩ :: new := by
        simp [hnew, Progress.start]
      rw [hss]
      exact .bare text start hpairs

theorem judge_of_steps (h : ts.foldlM (Progress.step form) Progress.start = .ok ⟨ss, none⟩) :
    judge form ⟨ts, none⟩ = .ok ss.reverse := by
  unfold judge
  rw [h]
  rfl

theorem judge_of_reads (h : Reads form ts ss) (hnodup : (ss.map Statement.element).Nodup) :
    judge form ⟨ts, none⟩ = .ok ss := by
  have hreverse : (ss.reverse.map Statement.element).Nodup := by
    rw [List.map_reverse]
    exact List.nodup_reverse.mpr hnodup
  cases h with
  | @led ts _ n h =>
    have hlead : ∀ s ∈ ss.head?, s.relation = .primary := by
      cases h
      rintro s ⟨⟩
      rfl
    have hsteps := steps_of_pairs h (p := Progress.start) rfl (fun _ => hlead)
      (by simpa [Progress.start] using hreverse)
    simpa [Progress.start] using judge_of_steps hsteps
  | @bare ts ss text start h =>
    have hstep : Progress.step form Progress.start (.operand text start) =
        .ok ⟨[⟨.primary, normalize form text, start⟩], none⟩ :=
      step_operand (by simp [Progress.start])
    have hsteps := steps_of_pairs h (p := ⟨[⟨.primary, normalize form text, start⟩], none⟩) rfl
      (by simp) (by simpa using hreverse)
    simpa using judge_of_steps ((foldlM_step_cons hstep ts).trans hsteps)

/-- A rule text is accepted exactly if it divides into items that read as statements with pairwise
different elements. -/
theorem parse_eq_ok_iff : parse form text = .ok ss ↔
    ∃ items, Divides 0 text items ∧ Reads form (tokens items) ss ∧
      (ss.map Statement.element).Nodup := by
  constructor
  · intro h
    obtain ⟨hblank, hjudge⟩ := parse_eq_ok h
    obtain ⟨-, -, hfault, -, -⟩ := judge_eq_ok hjudge
    obtain ⟨items, hitems⟩ := divides_of_scanFrom hfault
    have hne : tokens items ≠ [] := by
      rw [Ne, tokens_eq_nil_iff, items_eq_nil_iff hitems, hblank]
      decide
    rw [scan_of_divides hitems] at hjudge
    exact ⟨items, hitems, reads_of_judge hjudge (separated_tokens items) hne,
      (declared_of_parse h).nodup⟩
  · rintro ⟨items, hitems, hreads, hnodup⟩
    have hblank : ¬ Text.isBlank text = true := by
      rw [← items_eq_nil_iff hitems, ← tokens_eq_nil_iff]
      intro hnil
      rw [hnil] at hreads
      cases hreads
    rw [parse, if_neg hblank, scan_of_divides hitems]
    exact judge_of_reads hreads hnodup

theorem relations_of_reads (h : Reads form ts ss) :
    ∃ rs, ss.map Statement.relation = .primary :: rs := by
  cases h with
  | bare text start h => exact ⟨_, rfl⟩
  | led h =>
    cases h with
    | cons r n text start h => exact ⟨_, rfl⟩

/-- Accepted statements start with a primary group. -/
theorem relations_of_parse (h : parse form text = .ok ss) :
    ∃ rs, ss.map Statement.relation = .primary :: rs := by
  obtain ⟨items, -, hreads, -⟩ := parse_eq_ok_iff.mp h
  exact relations_of_reads hreads

section

variable {s : FormSetting} {t : Option Text}

theorem parseSetting_of_form (hs : s.form? = some form) :
    parseSetting s t = (parse form (t.getD [])).mapError .rule := by
  unfold parseSetting
  rw [hs]

theorem parseSetting_eq_ok_iff (hs : s.form? = some form) :
    parseSetting s t = .ok ss ↔ parse form (t.getD []) = .ok ss := by
  rw [parseSetting_of_form hs]
  cases parse form (t.getD []) <;> simp [Except.mapError]

theorem parseSetting_empty_iff (hs : s.form? = some form) :
    (∃ f, parseSetting s t = .error f ∧ f.family = .emptyRule) ↔
      Text.isBlank (t.getD []) = true := by
  rw [parseSetting_of_form hs, ← @parse_error_empty_iff form]
  cases parse form (t.getD []) with
  | ok ss => simp [Except.mapError]
  | error e => simp [Except.mapError, Failure.family]

/-- Under a form that is known, or none, rules are empty if they are missing or white space. Else
they are accepted if the text divides, from left to right, into items whose operators and operands
make up a rule with pairwise different elements, and then they are the statements of that rule. -/
theorem parseSetting_accepts_grammar (hs : s.form? = some form) (t : Option Text) :
    ((∃ f, parseSetting s t = .error f ∧ f.family = .emptyRule) ↔
      ∀ text ∈ t, ∀ c ∈ text, isSpace c = true) ∧
    ∀ ss, parseSetting s t = .ok ss ↔
      ∃ text ∈ t, ∃ items, Divides 0 text items ∧ Reads form (tokens items) ss ∧
        (ss.map Statement.element).Nodup := by
  refine ⟨?_, ?_⟩
  · rw [parseSetting_empty_iff hs]
    cases t <;> simp [Text.isBlank]
  · intro ss
    rw [parseSetting_eq_ok_iff hs, parse_eq_ok_iff]
    cases t with
    | some text => simp
    | none =>
      simp only [Option.getD_none, Option.not_mem_none, false_and, exists_false, iff_false]
      rintro ⟨items, hitems, hreads, -⟩
      obtain rfl := (items_eq_nil_iff hitems).mpr rfl
      cases hreads

/-- An apostrophe, a letter and a quoted run in one operand, and a run with an apostrophe in it. -/
def quotedRules : Text :=
  "''a 'b c' = 'it''s' < ch"

def quotedStatements : List Statement :=
  [⟨.primary, ['\'', 'a', 'b', ' ', 'c'], 0⟩, ⟨.same, ['i', 't', '\'', 's'], 12⟩,
    ⟨.primary, ['c', 'h'], 22⟩]

theorem parse_quotedRules : parse none quotedRules = .ok quotedStatements := by
  decide +kernel

theorem quotedRules_divide :
    FormSetting.off.form? = some none ∧
    ∃ items, Divides 0 quotedRules items ∧ Reads none (tokens items) quotedStatements ∧
      (quotedStatements.map Statement.element).Nodup := by
  have haccepts := (parseSetting_accepts_grammar (s := .off) rfl (some quotedRules)).2
  obtain ⟨text, htext, h⟩ :=
    (haccepts quotedStatements).mp ((parseSetting_eq_ok_iff rfl).mpr parse_quotedRules)
  obtain rfl := Option.some.inj htext
  exact ⟨rfl, h⟩

end

end Collation.Rule
