import Collation.Proofs.Run.LogFile

/-! The parts of an application, which are made when they are first needed. Options and machine say
what they come to. -/

namespace Collation

variable {a b : App} {s t : Machine} {o : OptionStore} {l : Logger} {v : Value} {tab : Tailoring}
  {c : Collator} {message : Text}

/-- The collator that options come to. -/
def OptionStore.collatorOn (o : OptionStore) (s : Machine) : Except Failure Collator :=
  (o.rulesOn s).bind fun v => (o.tailoringOf v).bind o.collatorOf

/-- An application that has made nothing yet. -/
structure App.IsNew (a : App) : Prop where
  logger : a.logger = none
  rules : a.rules = none
  tailoring : a.tailoring = none
  collator : a.collator = none

namespace Program

/-- The options of an application say whether its log can be opened. -/
theorem exec_logger_of_options (ha : a.logger = none)
    (h : (logger.exec (.ofOptions a.options) s).result = .ok l) :
    l.IsTidy ∧ ∃ t, s.Extends t ∧ a.options.HasLog t ∧
      logger.exec a s = ⟨.ok l, { a with logger := some l }, t⟩ := by
  have hopen : ((openLog a.options).exec (.ofOptions a.options) s).result = .ok l :=
    (result_logger (.ofOptions a.options) rfl (.ofOptions a.options) s).symm.trans h
  refine ⟨tidy_of_openLog hopen, _, (local_openLog a.options a (.ofOptions a.options) s).2,
    hasLog_of_openLog (Outcome.eq_of_result hopen), ?_⟩
  rw [exec_logger ha (.ofOptions a.options), hopen]

theorem exec_log_of_ok (h : logger.exec a s = ⟨.ok l, b, t⟩) (hl : l.IsTidy)
    (hmessage : IsNotice message) : ∃ l' u, l'.IsTidy ∧ t.Extends u ∧
      (log message).exec a s = ⟨.ok (), { b with logger := some l' }, u⟩ := by
  exact ⟨_, _, hl.log hmessage, Machine.extends_tell _ _ t, exec_log h hl.stamp message⟩

theorem exec_tailoring_of_log (ha : a.IsNew) (hrules : a.options.rulesOn s = .ok v)
    (htab : a.options.tailoringOf v = .ok tab)
    (hlog : (log (App.loadedMessage tab.table)).exec { a with rules := some v } s =
      ⟨.ok (), b, t⟩) :
    tailoring.exec a s = ⟨.ok tab, { b with tailoring := some tab }, t⟩ := by
  rw [exec_tailoring ha.tailoring ha.rules, hrules]
  dsimp only
  rw [htab]
  dsimp only
  rw [hlog]
  rfl

/-- A table is made of rules that are right, if the log can be opened. -/
theorem exec_tailoring_of_ok (ha : a.IsNew) (hrules : a.options.rulesOn s = .ok v)
    (htab : a.options.tailoringOf v = .ok tab)
    (hlog : (logger.exec (.ofOptions a.options) s).result = .ok l) :
    ∃ l' u, l'.IsTidy ∧ s.Extends u ∧ a.options.HasLog u ∧ tailoring.exec a s =
      ⟨.ok tab, { a with logger := some l', rules := some v, tailoring := some tab }, u⟩ := by
  obtain ⟨hl, t, hopened, hhas, hlogger⟩ :=
    exec_logger_of_options (a := { a with rules := some v }) ha.logger hlog
  obtain ⟨l', u, hl', hlogged, hexec⟩ :=
    exec_log_of_ok hlogger hl (isNotice_loadedMessage tab.table)
  exact ⟨l', u, hl', hopened.trans hlogged, hhas.of_keeps hlogged.keeps,
    exec_tailoring_of_log ha hrules htab hexec⟩

theorem result_tailoring (ha : a.IsNew) (hrules : a.options.rulesOn s = .ok v)
    (hlog : (logger.exec (.ofOptions a.options) s).result = .ok l) :
    (tailoring.exec a s).result = a.options.tailoringOf v := by
  cases htab : a.options.tailoringOf v with
  | ok tab =>
    obtain ⟨l', u, -, -, -, hexec⟩ := exec_tailoring_of_ok ha hrules htab hlog
    rw [hexec]
  | error e =>
    rw [exec_tailoring ha.tailoring ha.rules, hrules]
    dsimp only
    rw [htab]

/-- No table is made if the log cannot be opened. -/
theorem exists_of_tailoring_eq_ok (ha : a.IsNew) (h : tailoring.exec a s = ⟨.ok tab, b, t⟩) :
    ∃ v l, a.options.rulesOn s = .ok v ∧
      (logger.exec (.ofOptions a.options) s).result = .ok l := by
  rw [exec_tailoring ha.tailoring ha.rules] at h
  split at h
  · cases h
  · next v hrules =>
    split at h
    · cases h
    · have hsame : (logger.exec (.ofOptions a.options) s).result =
          (logger.exec { a with rules := some v } s).result :=
        (result_logger (.ofOptions a.options) rfl a s).trans
          (result_logger { a with rules := some v } ha.logger a s).symm
      cases hlog : (logger.exec { a with rules := some v } s).result with
      | error e =>
        rw [log, exec_bind_of_error (Outcome.eq_of_result hlog)] at h
        cases h
      | ok l => exact ⟨v, l, hrules, hsame.trans hlog⟩

theorem exec_collator_of_tailoring (ha : a.collator = none)
    (h : tailoring.exec a s = ⟨.ok tab, b, t⟩) (hc : b.options.collatorOf tab = .ok c) :
    collator.exec a s = ⟨.ok c, { b with collator := some c }, t⟩ := by
  rw [exec_collator ha, h]
  simp only [Outcome.next]
  rw [hc]

/-- A collator that is made is kept with the log. -/
theorem exec_collator_of_ok (ha : a.IsNew) (hc : a.options.collatorOn s = .ok c)
    (hlog : (logger.exec (.ofOptions a.options) s).result = .ok l) :
    ∃ b u l', collator.exec a s = ⟨.ok c, b, u⟩ ∧ b.options = a.options ∧ b.collator = some c ∧
      b.logger = some l' ∧ l'.IsTidy ∧ s.Extends u ∧ a.options.HasLog u := by
  obtain ⟨v, hrules, hrest⟩ := bind_eq_ok hc
  obtain ⟨tab, htab, hcollator⟩ := bind_eq_ok hrest
  obtain ⟨l', u, hl', hgrows, hhas, htailoring⟩ := exec_tailoring_of_ok ha hrules htab hlog
  exact ⟨_, u, l', exec_collator_of_tailoring ha.collator htailoring hcollator, rfl, rfl, rfl, hl',
    hgrows, hhas⟩

theorem exists_of_collator_eq_ok (ha : a.IsNew) (h : collator.exec a s = ⟨.ok c, b, t⟩) :
    a.options.collatorOn s = .ok c ∧
      ∃ l, (logger.exec (.ofOptions a.options) s).result = .ok l := by
  rw [exec_collator ha.collator] at h
  rcases htailoring : tailoring.exec a s with ⟨e | tab, b', u⟩
  · rw [htailoring] at h
    cases h
  · obtain ⟨v, l, hrules, hlog⟩ := exists_of_tailoring_eq_ok ha htailoring
    have htab : a.options.tailoringOf v = .ok tab := by
      rw [← result_tailoring ha hrules hlog, htailoring]
    obtain ⟨l', u', -, -, -, hexec⟩ := exec_tailoring_of_ok ha hrules htab hlog
    rw [hexec] at h
    simp only [Outcome.next] at h
    refine ⟨?_, l, hlog⟩
    unfold OptionStore.collatorOn
    rw [hrules]
    simp only [Except.bind]
    rw [htab]
    dsimp only
    cases hcollator : a.options.collatorOf tab with
    | error e =>
      rw [hcollator] at h
      cases h
    | ok c' =>
      rw [hcollator] at h
      exact congrArg Outcome.result h

end Program

end Collation
