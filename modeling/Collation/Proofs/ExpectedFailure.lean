import Collation.Proofs.Run.Body
import Collation.Proofs.Run.Ending

/-! Expected failures: faults of rules, of the system and of values. The program settles them by their
message, unless it cannot open its log, which it opens only to write that message, or cannot close it
after that. -/

namespace Collation

/-- A failure that a user can cause. -/
def Failure.IsExpected (e : Failure) : Prop :=
  [Family.collation, .system, .value].any e.family.isA = true

/-- What is logged of an expected failure. -/
def Failure.reported (e : Failure) : Text :=
  e.family.label ++ ": " ++ e.message

/-- The application once it has a handler of failures. -/
def App.handling (a : App) : App :=
  { a with handlesFailures := true }

variable {α : Type} {e : Failure} {l : Logger} {a b : App} {s t u : Machine} {message : Text}

theorem Failure.IsExpected.ne_helpShown (he : e.IsExpected) : e ≠ .helpShown := by
  rintro rfl
  exact absurd he (by unfold IsExpected; decide)

/-- Every failure of a stream is expected. -/
theorem isExpected_stream (cause : StreamCause) : (Failure.stream cause).IsExpected := by
  have hpassed := Logger.passesOver_stream cause
  rw [Logger.passesOver, Bool.or_eq_true] at hpassed
  unfold Failure.IsExpected
  simp only [List.any_cons, List.any_nil, Bool.or_false, Bool.or_eq_true]
  exact Or.inr hpassed

theorem head?_of_isNotice (h : IsNotice message) :
    message.head? = some 'L' ∨ message.head? = some 'S' := by
  obtain ⟨rest, rfl⟩ | ⟨rest, rfl⟩ := h
  · exact Or.inl rfl
  · exact Or.inr rfl

/-- No notice starts like the name of an expected family. -/
theorem Family.head?_label (f : Family) (hf : [collation, system, value].any f.isA = true) :
    ∃ c, f.label.head? = some c ∧ c ≠ 'L' ∧ c ≠ 'S' := by
  cases f <;> first | exact ⟨_, rfl, by decide, by decide⟩ | exact absurd hf (by decide)

theorem Failure.IsExpected.reported_ne_last (he : e.IsExpected) (hl : l.IsTidy) :
    e.reported ≠ l.last := by
  obtain ⟨c, hc, hloaded, hsorted⟩ := Family.head?_label e.family he
  have hhead : e.reported.head? = some c := by
    rw [reported, List.append_assoc, List.head?_append, hc]
    rfl
  intro h
  rcases hl.last with hnil | hnotice
  · rw [h, hnil] at hhead
    cases hhead
  · rw [h] at hhead
    rcases head?_of_isNotice hnotice with hfirst | hfirst
    · exact hloaded (Option.some.inj (hhead.symm.trans hfirst))
    · exact hsorted (Option.some.inj (hhead.symm.trans hfirst))

namespace Program

theorem exec_handle (he : e.IsExpected) (htold : e.isTold = true) :
    (handle e).exec a s =
      ((log e.reported).exec a.handling s).next fun _ b t => ⟨.ok true, b, t⟩ :=
  exec_handle_of_message he (Failure.message?_of_isTold htold)

/-- The message is told to the log, if that is open or can be opened. -/
theorem exec_handle_of_logger (he : e.IsExpected) (htold : e.isTold = true)
    (h : logger.exec a.handling s = ⟨.ok l, b, t⟩) (hl : l.IsTidy) :
    ∃ l', (handle e).exec a s = ⟨.ok true, { b with logger := some l' },
        t.tell (t.stampText ++ e.reported ++ ['\n']) l.streams⟩ ∧ l'.owned = l.owned := by
  refine ⟨{ l with last := (Logger.shorten l.repeatMark l.last e.reported).2 }, ?_, rfl⟩
  rw [exec_handle he htold, exec_log h hl.stamp, Logger.shorten_of_ne _ (he.reported_ne_last hl)]
  rfl

theorem exec_handle_of_no_logger {e' : Failure} (he : e.IsExpected) (htold : e.isTold = true)
    (h : logger.exec a.handling s = ⟨.error e', b, t⟩) :
    (handle e).exec a s = ⟨.error e', b, t⟩ := by
  rw [exec_handle he htold, log, exec_bind_of_error h]
  rfl

end Program

namespace Command

open Program

def bodies : List (List Text → Program (StateM Machine) Unit) :=
  [sortLines, compareTexts, showTable]

variable {body : List Text → Program (StateM Machine) Unit} {x : Program (StateM Machine) Unit}
  {description : Text} {argv : List Text}

theorem prudent_of_mem_bodies (h : body ∈ bodies) (argv : List Text) : Prudent (body argv) := by
  simp only [bodies, List.mem_cons, List.not_mem_nil, or_false] at h
  rcases h with rfl | rfl | rfl
  · exact prudent_sortLines argv
  · exact prudent_compareTexts argv
  · exact prudent_showTable argv

/-- An expected failure of a body has a message, and comes before any results unless it is one of
writing them. -/
theorem told_of_expected (hbody : body ∈ bodies)
    (h : (body argv).exec (App.ofOptions (.standard description)) s = ⟨.error e, a, t⟩)
    (he : e.IsExpected) : a.IsTidy ∧ e.isTold = true ∧ s.FailsWith t e := by
  have hstart : (App.ofOptions (.standard description)).IsTidy := nofun
  obtain ⟨tidy, kept⟩ := prudent_of_mem_bodies hbody argv _ s hstart
  rw [h] at tidy kept
  exact ⟨tidy, (kept e rfl).resolve_left he.ne_helpShown⟩

theorem runOn_of_logger (hbody : body ∈ bodies)
    (h : (body argv).exec (App.ofOptions (.standard description)) s = ⟨.error e, a, t⟩)
    (he : e.IsExpected) (hlogger : logger.exec a.handling t = ⟨.ok l, b, u⟩) :
    let line := t.stampText ++ e.reported ++ ['\n']
    let closed := Machine.upTo Machine.close l.owned (u.tell line l.streams)
    closed.2.shown = (t.out, t.err.write line, t.stampText) ∧
    runOn (run description body argv) s =
      (closed.1.mapError .stream >>= fun _ => .ok 1, closed.2) ∧
    (t.IsSound → closed.1 = .ok ()) := by
  intro line closed
  obtain ⟨tidy, htold, -⟩ := told_of_expected hbody h he
  -- Opening the log shows nothing, so that the message stands right after what was told before.
  obtain ⟨-, hkept, -, hholds⟩ := yields_logger a.handling t tidy
  have hgrows := extends_logger a.handling t
  rw [hlogger] at hkept hholds hgrows
  have hl : l.IsTidy := hholds l rfl
  obtain ⟨houtput, hrest⟩ := Prod.mk.inj hkept
  obtain ⟨hmessages, hstamp⟩ := Prod.mk.inj hrest
  obtain ⟨l', hhandle, howned⟩ := exec_handle_of_logger he htold hlogger hl
  obtain ⟨ns, hns⟩ := hl.streams
  obtain ⟨ms, hms⟩ := hl.owned
  refine ⟨?_, ?_, fun hsound => ?_⟩
  · change (Machine.upTo Machine.close l.owned (u.tell line l.streams)).2.shown = _
    rw [hms, Machine.shown_closeFiles, hns, Machine.shown_tell, houtput, hmessages, hstamp]
  · rw [runOn_of_error h, hhandle, hstamp]
    change Outcome.ended ⟨.ok 1, { b with logger := some l' }, u.tell line l.streams⟩ = _
    rw [Outcome.ended, App.owned_of_logger rfl, howned]
  · change (Machine.upTo Machine.close l.owned (u.tell line l.streams)).1 = _
    rw [hms]
    exact ((Machine.extends_tell line l.streams u).sound (hgrows.sound hsound)).closeFiles ms

theorem runOn_of_no_logger {e' : Failure} (hbody : body ∈ bodies)
    (h : (body argv).exec (App.ofOptions (.standard description)) s = ⟨.error e, a, t⟩)
    (he : e.IsExpected) (hlogger : logger.exec a.handling t = ⟨.error e', b, u⟩) :
    runOn (run description body argv) s = (.error e', u) ∧ u.shown = t.shown := by
  obtain ⟨tidy, htold, -⟩ := told_of_expected hbody h he
  have hhandle := exec_handle_of_no_logger he htold hlogger
  have hkept := (yields_logger a.handling t tidy).kept
  rw [hlogger] at hkept
  refine ⟨?_, hkept⟩
  rw [runOn_of_error h, hhandle]
  exact Outcome.ended_of_owned (App.owned_of_none (logger_of_exec_logger_error hlogger))

/-- What becomes of an expected failure of a program. It comes before any results, unless it is the
failure to write one, which comes after those before it. If the log is open then, or can be opened,
the name and the message of the failure are told to it. Then the run returns 1 and no failure leaves
it if the log closes well, as it does if no stream ever fails. Else the failure to close the log
leaves the run, as does the failure to open it. -/
theorem runOn_expected_failure (hbody : body ∈ bodies)
    (h : (body argv).exec (App.ofOptions (.standard description)) s = ⟨.error e, a, t⟩)
    (he : e.IsExpected) :
    (t.output = s.output ∨ (∃ cause, e = .stream cause) ∧ s.output <+: t.output) ∧
    (∀ l b u, logger.exec a.handling t = ⟨.ok l, b, u⟩ →
      let line := s.stampText ++ e.reported ++ ['\n']
      let closed := Machine.upTo Machine.close l.owned (u.tell line l.streams)
      closed.2.output = t.output ∧ closed.2.err = t.err.write line ∧
      (t.err.answer = .ok () → closed.2.messages = t.messages ++ line) ∧
      (closed.1 = .ok () → runOn (run description body argv) s = (.ok 1, closed.2)) ∧
      (∀ cause, closed.1 = .error cause →
        runOn (run description body argv) s = (.error (.stream cause), closed.2)) ∧
      (t.IsSound → closed.1 = .ok ())) ∧
    (∀ e' b u, logger.exec a.handling t = ⟨.error e', b, u⟩ →
      runOn (run description body argv) s = (.error e', u) ∧ u.output = t.output ∧
        u.messages = t.messages) := by
  obtain ⟨-, -, hfails⟩ := told_of_expected hbody h he
  rw [← hfails.stampText]
  refine ⟨hfails.output, fun l b u hlogger => ?_, fun e' b u hlogger => ?_⟩
  · intro line closed
    obtain ⟨hshown, hrun, hsound⟩ := runOn_of_logger hbody h he hlogger
    obtain ⟨hout, hrest⟩ := Prod.mk.inj hshown
    obtain ⟨herr, -⟩ := Prod.mk.inj hrest
    refine ⟨congrArg OpenStream.taken hout, herr, fun htaken => ?_, fun hok => ?_,
      fun cause hcause => ?_, hsound⟩
    · exact (congrArg OpenStream.taken herr).trans (OpenStream.taken_write_of_ok htaken line)
    · rw [hrun, hok]
      rfl
    · rw [hrun, hcause]
      rfl
  · obtain ⟨hrun, hshown⟩ := runOn_of_no_logger hbody h he hlogger
    obtain ⟨hout, hrest⟩ := Prod.mk.inj hshown
    exact ⟨hrun, congrArg OpenStream.taken hout,
      congrArg OpenStream.taken (Prod.mk.inj hrest).1⟩

/-- A machine with no files but a directory. -/
def directoryMachine : Machine :=
  .ofTree ⟨[(["logs"], .directory)]⟩ "/root" "/package" [] "[now]: "

def compareDescription : Text :=
  "Compare two strings by collation rules. Prints <, = or >."

/-- What a command line gives to an application: a configuration file, a log and texts. -/
theorem exists_of_parse {config log : Option Text} {texts : List Text}
    (h : ((OptionStore.standard compareDescription).parse argv).toOption.map
      (fun o => (o.text? "config", o.text? "log", o.positional)) = some (config, log, texts)) :
    ∃ o, (OptionStore.standard compareDescription).parse argv = .ok o ∧
      o.text? "config" = config ∧ o.text? "log" = log ∧ o.positional = texts := by
  cases hparse : (OptionStore.standard compareDescription).parse argv with
  | error stop =>
    rw [hparse] at h
    cases h
  | ok o =>
    rw [hparse] at h
    obtain ⟨hconfig, hrest⟩ := Prod.mk.inj (Option.some.inj h)
    obtain ⟨hlog, htexts⟩ := Prod.mk.inj hrest
    exact ⟨o, rfl, hconfig, hlog, htexts⟩

/-- Without a configuration file, one text is refused before anything is done. -/
theorem exec_compareTexts_one (argv : List Text) (log : Option Text) (x : Text)
    (h : ((OptionStore.standard compareDescription).parse argv).toOption.map
      (fun o => (o.text? "config", o.text? "log", o.positional)) = some (some [], log, [x]))
    (s : Machine) : ∃ o : OptionStore, o.text? "log" = log ∧
      (compareTexts argv).exec (App.ofOptions (.standard compareDescription)) s =
        ⟨.error (.stringCount 1), .ofOptions o, s⟩ := by
  obtain ⟨o, hparse, hconfig, hlog, htexts⟩ := exists_of_parse h
  refine ⟨o, hlog, ?_⟩
  unfold compareTexts
  rw [exec_bind_of_ok (exec_setup_of_no_config hparse (OptionStore.get_of_text? hconfig)),
    exec_bind_of_ok (exec_get _ s)]
  dsimp only
  rw [htexts]
  exact exec_throw _ _ s

theorem compareTexts_mem_bodies : compareTexts ∈ bodies :=
  List.mem_cons_of_mem _ List.mem_cons_self

theorem isExpected_stringCount (n : Nat) : (Failure.stringCount n).IsExpected := by
  change [Family.collation, .system, .value].any Family.value.isA = true
  decide

/-- A text to compare, and nothing to compare it to. -/
theorem runOn_expected_failure_count :
    ∃ u, runOn (compare ["rule_collator", "x", "--config="]) directoryMachine = (.ok 1, u) ∧
      u.output = [] ∧ u.messages =
        "[now]: ValueError: Exactly two strings are required for comparison, got 1.\n" := by
  obtain ⟨o, hlog, hfailed⟩ := exec_compareTexts_one
    ["rule_collator", "x", "--config="] (some []) "x" (by decide +kernel) directoryMachine
  obtain ⟨l, b, hlogger⟩ := exec_logger_of_no_log (a := (App.ofOptions o).handling)
    (s := directoryMachine) rfl (OptionStore.get_of_text? hlog) rfl
  obtain ⟨-, hopen, -⟩ :=
    runOn_expected_failure compareTexts_mem_bodies hfailed (isExpected_stringCount 1)
  obtain ⟨houtput, -, hmessages, hclosed, -, hsound⟩ := hopen l b _ hlogger
  refine ⟨_, hclosed (hsound (Machine.isSound_ofTree ..)), houtput, (hmessages rfl).trans ?_⟩
  decide +kernel

theorem exec_logger_directory (ha : a.logger = none) (hlog : a.options.text? "log" = some "logs") :
    logger.exec a directoryMachine =
      ⟨.error (.file .isDirectory "logs"), a, directoryMachine⟩ := by
  have hpath : exec a.options.logPath a directoryMachine =
      ⟨.ok ['l', 'o', 'g', 's'], a, directoryMachine⟩ := by
    rw [exec_logPath (OptionStore.get_of_text? hlog) (by decide),
      Machine.convert_of_no_sign _ rfl rfl]
    rfl
  rw [exec_logger_of_none ha, exec_bind_of_ok hpath]
  rfl

/-- A machine with a file that can be opened, and passes nothing on. -/
def fullMachine : Machine :=
  { Machine.ofTree ⟨[(["full"], .file [])]⟩ "/root" "/package" [] "[now]: " with
    devices := fun _ _ => some (.onFlush .diskFull) }

def fullLogger : Logger :=
  .ofStreams [.file 0, .messages] [.file 0] .time (some Logger.repeatSign)

theorem exec_logger_full (ha : a.logger = none) (hlog : a.options.text? "log" = some "full") :
    ∃ b, logger.exec a fullMachine = ⟨.ok fullLogger, b,
      { fullMachine with
        streams := [.new (.tree ["full"]) fun _ => some (.onFlush .diskFull)] }⟩ := by
  have hpath : exec a.options.logPath a fullMachine =
      ⟨.ok ['f', 'u', 'l', 'l'], a, fullMachine⟩ := by
    rw [exec_logPath (OptionStore.get_of_text? hlog) (by decide),
      Machine.convert_of_no_sign _ rfl rfl]
    rfl
  refine ⟨{ a with logger := some fullLogger }, ?_⟩
  rw [exec_logger_of_none ha, exec_bind_of_ok hpath]
  rfl

/-- The same with a log that cannot be written to. A directory cannot be opened, so that the failure
is neither told nor settled. A file on a full disk is opened, but cannot be closed. -/
theorem unusable_log_leaves :
    (Failure.stringCount 1).IsExpected ∧ (Failure.file .isDirectory "logs").IsExpected ∧
    (Failure.stream .diskFull).IsExpected ∧
    ((compareTexts ["rule_collator", "x", "--config=", "--log=logs"]).exec
      (App.ofOptions (.standard compareDescription)) directoryMachine).result =
        .error (.stringCount 1) ∧
    (∃ u, runOn (compare ["rule_collator", "x", "--config=", "--log=logs"]) directoryMachine =
      (.error (.file .isDirectory "logs"), u) ∧ u.messages = []) ∧
    ((compareTexts ["rule_collator", "x", "--config=", "--log=full"]).exec
      (App.ofOptions (.standard compareDescription)) fullMachine).result =
        .error (.stringCount 1) ∧
    (runOn (compare ["rule_collator", "x", "--config=", "--log=full"]) fullMachine).1 =
      .error (.stream .diskFull) := by
  have hdirectory : (Failure.file .isDirectory "logs").IsExpected := by
    unfold Failure.IsExpected
    decide
  obtain ⟨o, hlog, hfailed⟩ := exec_compareTexts_one
    ["rule_collator", "x", "--config=", "--log=logs"] (some "logs") "x" (by decide +kernel)
    directoryMachine
  have hlogger := exec_logger_directory (a := (App.ofOptions o).handling) rfl hlog
  obtain ⟨hrun, hshown⟩ :=
    runOn_of_no_logger compareTexts_mem_bodies hfailed (isExpected_stringCount 1) hlogger
  obtain ⟨o', hlog', hfailed'⟩ := exec_compareTexts_one
    ["rule_collator", "x", "--config=", "--log=full"] (some "full") "x" (by decide +kernel)
    fullMachine
  obtain ⟨b, hlogger'⟩ := exec_logger_full (a := (App.ofOptions o').handling) rfl hlog'
  obtain ⟨-, hrun', -⟩ :=
    runOn_of_logger compareTexts_mem_bodies hfailed' (isExpected_stringCount 1) hlogger'
  refine ⟨isExpected_stringCount 1, hdirectory, isExpected_stream _, by rw [hfailed], ⟨_, hrun, rfl⟩,
    by rw [hfailed'], congrArg Prod.fst hrun'⟩

end Command

end Collation
