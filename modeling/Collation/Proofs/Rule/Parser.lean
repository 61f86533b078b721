import Mathlib.Data.List.Nodup
import Collation.Proofs.Result
import Collation.Rule.Parser

/-! What each token does to the progress of a parser, and what is true of accepted statements. -/

namespace Collation.Rule

variable {form : Option Form} {p q : Progress} {token : Token} {tokens : List Token}
  {text : Text} {ss : List Statement}

/-- An accepted token is an operator where one may stand, or an operand with a new element. -/
theorem Progress.step_cases (h : Progress.step form p token = .ok q) :
    (∃ relation position, token = .operator relation position ∧ p.pending = none ∧
      (p.statements = [] → relation = .primary) ∧
      q = ⟨p.statements, some (relation, position)⟩) ∨
    (∃ operand position, token = .operand operand position ∧
      (∀ s ∈ p.statements, s.element ≠ normalize form operand) ∧
      q = ⟨⟨(p.pending.map Prod.fst).getD .primary, normalize form operand, position⟩ ::
        p.statements, none⟩) := by
  cases token with
  | operator relation position =>
    left
    cases hp : p.pending with
    | some waiting => simp [step, hp] at h
    | none =>
      simp only [step, hp] at h
      split at h
      · contradiction
      · next hlead =>
        refine ⟨relation, position, rfl, rfl, ?_, (Except.ok.inj h).symm⟩
        intro hempty
        simpa [hempty] using hlead
  | operand operand position =>
    right
    simp only [step] at h
    split at h
    · contradiction
    · next hnone =>
      refine ⟨operand, position, rfl, ?_, (Except.ok.inj h).symm⟩
      simpa using hnone

theorem foldlM_step_cons (h : Progress.step form p token = .ok q) (ts : List Token) :
    (token :: ts).foldlM (Progress.step form) p = ts.foldlM (Progress.step form) q := by
  rw [List.foldlM_cons, h]
  rfl

/-- Statements whose elements are normalized and pairwise different. -/
structure Declared (form : Option Form) (ss : List Statement) : Prop where
  nodup : (ss.map Statement.element).Nodup
  normalized : ∀ s ∈ ss, ∃ operand, s.element = normalize form operand

theorem Declared.step (h : Progress.step form p token = .ok q)
    (hp : Declared form p.statements) : Declared form q.statements := by
  obtain ⟨_, _, -, -, -, rfl⟩ | ⟨operand, position, -, hnew, rfl⟩ := Progress.step_cases h
  · exact hp
  · constructor
    · rw [List.map_cons, List.nodup_cons]
      refine ⟨?_, hp.nodup⟩
      rw [List.mem_map]
      rintro ⟨s, hs, heq⟩
      exact hnew s hs heq
    · intro s hs
      rcases List.mem_cons.mp hs with rfl | hs
      · exact ⟨operand, rfl⟩
      · exact hp.normalized s hs

theorem Declared.steps (h : tokens.foldlM (Progress.step form) p = .ok q)
    (hp : Declared form p.statements) : Declared form q.statements := by
  induction tokens generalizing p with
  | nil =>
    obtain rfl : p = q := Except.ok.inj h
    exact hp
  | cons token tokens ih =>
    rw [List.foldlM_cons] at h
    obtain ⟨r, hr, h⟩ := bind_eq_ok h
    exact ih h (hp.step hr)

theorem Declared.reverse (h : Declared form ss) : Declared form ss.reverse :=
  ⟨by rw [List.map_reverse]; exact List.nodup_reverse.mpr h.nodup,
    fun s hs => h.normalized s (List.mem_reverse.mp hs)⟩

theorem Progress.finish_eq_ok (h : p.finish = .ok ss) :
    p.pending = none ∧ ss = p.statements.reverse := by
  unfold finish at h
  split at h
  · contradiction
  · next hpending => exact ⟨hpending, (Except.ok.inj h).symm⟩

theorem judge_eq_ok {scan : Scan} (h : judge form scan = .ok ss) :
    ∃ p, scan.tokens.foldlM (Progress.step form) Progress.start = .ok p ∧
      scan.fault = none ∧ p.pending = none ∧ ss = p.statements.reverse := by
  obtain ⟨p, hp, h⟩ := bind_eq_ok h
  cases hf : scan.fault with
  | some e => rw [hf] at h; contradiction
  | none =>
    rw [hf] at h
    exact ⟨p, hp, rfl, Progress.finish_eq_ok h⟩

theorem parse_eq_ok (h : parse form text = .ok ss) :
    Text.isBlank text = false ∧ judge form (scan text) = .ok ss := by
  unfold parse at h
  split at h
  · contradiction
  · next hblank => exact ⟨Bool.eq_false_iff.mpr hblank, h⟩

theorem declared_of_parse (h : parse form text = .ok ss) : Declared form ss := by
  obtain ⟨p, hp, -, -, rfl⟩ := judge_eq_ok (parse_eq_ok h).2
  have hstart : Declared form Progress.start.statements :=
    ⟨List.nodup_nil, by simp [Progress.start]⟩
  exact (hstart.steps hp).reverse

end Collation.Rule
