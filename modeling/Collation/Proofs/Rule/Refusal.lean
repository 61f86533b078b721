import Collation.Proofs.Rule.Parser

/-! What a rule text is refused for: white space only, a fault of the scan, or the first token that
cannot come after the tokens before it. Only white space makes rules empty. -/

namespace Collation.Rule

variable {form : Option Form} {p q : Progress} {token : Token} {ts : List Token} {text : Text}
  {e : RuleError}

/-- A token is refused if it is an operator that may not stand there, or an operand whose element is
declared already. -/
theorem Progress.step_error_cases (h : Progress.step form p token = .error e) :
    (∃ relation position previous waiting, token = .operator relation position ∧
      p.pending = some (previous, waiting) ∧ e = ⟨.doubleOperator relation previous, position⟩) ∨
    (∃ relation position, token = .operator relation position ∧ p.pending = none ∧
      p.statements = [] ∧ relation ≠ .primary ∧ e = ⟨.leadingOperator relation, position⟩) ∨
    (∃ operand position, token = .operand operand position ∧
      ∃ s ∈ p.statements, s.element = normalize form operand ∧
        e = ⟨.duplicate (normalize form operand) s.position, position⟩) := by
  cases token with
  | operator relation position =>
    cases hp : p.pending with
    | some waiting =>
      left
      simp only [step, hp] at h
      exact ⟨relation, position, waiting.1, waiting.2, rfl, rfl, (Except.error.inj h).symm⟩
    | none =>
      right; left
      simp only [step, hp] at h
      split at h
      · next hlead =>
        rw [Bool.and_eq_true, List.isEmpty_iff, decide_eq_true_iff] at hlead
        exact ⟨relation, position, rfl, rfl, hlead.1, hlead.2, (Except.error.inj h).symm⟩
      · contradiction
  | operand operand position =>
    right; right
    simp only [step] at h
    split at h
    · next s hs =>
      refine ⟨operand, position, rfl, s, List.mem_of_find?_eq_some hs, ?_,
        (Except.error.inj h).symm⟩
      simpa using List.find?_some hs
    · contradiction

/-- If tokens are refused, there is a first one that is, after tokens that are accepted. -/
theorem exists_refused_token (h : ts.foldlM (Progress.step form) p = .error e) :
    ∃ before token after q, ts = before ++ token :: after ∧
      before.foldlM (Progress.step form) p = .ok q ∧ Progress.step form q token = .error e := by
  induction ts generalizing p with
  | nil => contradiction
  | cons token ts ih =>
    cases hstep : Progress.step form p token with
    | error e' =>
      rw [List.foldlM_cons, hstep] at h
      obtain rfl : e' = e := Except.error.inj h
      exact ⟨[], token, ts, p, rfl, rfl, hstep⟩
    | ok p' =>
      rw [foldlM_step_cons hstep] at h
      obtain ⟨before, refused, after, q, rfl, hbefore, hrefused⟩ := ih h
      exact ⟨token :: before, refused, after, q, rfl, (foldlM_step_cons hstep before).trans hbefore,
        hrefused⟩

/-- A token that is refused comes before a fault of the scan, and that before an operator without an
element. -/
theorem judge_error_cases {s : Scan} (h : judge form s = .error e) :
    s.tokens.foldlM (Progress.step form) Progress.start = .error e ∨
    ∃ p, s.tokens.foldlM (Progress.step form) Progress.start = .ok p ∧
      (s.fault = some e ∨ s.fault = none ∧ ∃ relation position,
        p.pending = some (relation, position) ∧ e = ⟨.trailingOperator relation, position⟩) := by
  unfold judge at h
  cases hsteps : s.tokens.foldlM (Progress.step form) Progress.start with
  | error e' =>
    rw [hsteps] at h
    exact Or.inl (congrArg Except.error (Except.error.inj h))
  | ok p =>
    rw [hsteps] at h
    right
    refine ⟨p, rfl, ?_⟩
    cases hfault : s.fault with
    | some e' =>
      rw [hfault] at h
      obtain rfl : e' = e := Except.error.inj h
      exact Or.inl rfl
    | none =>
      rw [hfault] at h
      change p.finish = .error e at h
      unfold Progress.finish at h
      split at h
      · next relation position hpending =>
        exact Or.inr ⟨rfl, relation, position, hpending, (Except.error.inj h).symm⟩
      · contradiction

/-- A scan stops only at an unclosed quote or at a reserved character. -/
theorem cause_of_scan_fault {n : Nat} {pending : Pending}
    (h : (scanFrom n pending text).fault = some e) :
    e.cause = .unclosedQuote ∨ ∃ c, e.cause = .reserved c := by
  fun_induction scanFrom n pending text with
  | case1 => contradiction
  | case2 =>
    obtain rfl := Option.some.inj h
    exact Or.inl rfl
  | case6 =>
    obtain rfl := Option.some.inj h
    exact Or.inr ⟨_, rfl⟩
  | case3 _ _ _ _ _ _ _ ih | case4 _ _ _ _ _ _ _ ih | case5 _ _ _ _ _ _ _ ih
  | case7 _ _ _ _ _ _ _ _ ih => exact ih h

theorem step_error_ne_empty (h : Progress.step form p token = .error e) : e.cause ≠ .empty := by
  obtain ⟨_, _, _, _, -, -, rfl⟩ | ⟨_, _, -, -, -, -, rfl⟩ | ⟨_, _, -, _, -, -, rfl⟩ :=
    Progress.step_error_cases h <;>
  exact RuleError.Cause.noConfusion

theorem judge_scan_error_ne_empty (h : judge form (scan text) = .error e) : e.cause ≠ .empty := by
  obtain hsteps | ⟨_, -, hfault | ⟨-, _, _, -, rfl⟩⟩ := judge_error_cases h
  · obtain ⟨_, _, _, _, -, -, hstep⟩ := exists_refused_token hsteps
    exact step_error_ne_empty hstep
  · obtain hcause | ⟨c, hcause⟩ := cause_of_scan_fault hfault <;>
    exact hcause ▸ RuleError.Cause.noConfusion
  · exact RuleError.Cause.noConfusion

theorem parse_error_empty_iff :
    (∃ e, parse form text = .error e ∧ e.cause = .empty) ↔ Text.isBlank text = true := by
  constructor
  · rintro ⟨e, h, hempty⟩
    by_contra hblank
    rw [parse, if_neg hblank] at h
    exact judge_scan_error_ne_empty h hempty
  · intro hblank
    exact ⟨⟨.empty, 0⟩, by rw [parse, if_pos hblank], rfl⟩

end Collation.Rule
