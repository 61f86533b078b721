import Collation.Proofs.ExpectedFailure
import Collation.Proofs.Option.Request

/-! Runs that are asked for help. They show the help text and exit, without touching a file. The exit
is told like a failure that nobody expected. -/

namespace Collation

/-- What is logged of an exit. -/
def exitReport : Text :=
  "Traceback (most recent call last):\nSystemExit: 0"

variable {a : App} {s : Machine} {description script key text : Text}
  {first argv : List Text}

namespace Program

/-- An exit is none of the failures that are settled, and is reported like the others. -/
theorem exec_handle_exit (a : App) (s : Machine) : (handle .helpShown).exec a s =
    ((log exitReport).exec a.handling s).next fun _ b t => ⟨.ok false, b, t⟩ := by
  have hreport : Handler.Raised.reportText ⟨Failure.helpShown.family, .helpShown, true⟩ =
      exitReport := by
    decide
  rw [exec_handle_of_unexpected (by decide), hreport]
  rfl

variable {e : Failure} {message : Text}

/-- Without a log file, a message is told to the messages alone. -/
theorem exec_log_of_no_log (ha : a.logger = none) (hlog : a.options.get "log" = .ok (.text []))
    (hmessage : message ≠ []) : (log message).exec a s =
      ⟨.ok (), { a with logger := some { Logger.messagesOnly with last := message } },
        { s with err := s.err.write (s.stampText ++ message ++ ['\n']) }⟩ := by
  have hshorten : Logger.shorten (some Logger.repeatSign) [] message = (message, message) :=
    if_neg hmessage
  rw [exec_log (exec_logger_messages ha hlog rfl) rfl]
  change (⟨_, { a with logger := some { Logger.messagesOnly with
    last := (Logger.shorten (some Logger.repeatSign) [] message).2 } },
    Machine.tell (s.stampText ++ (Logger.shorten (some Logger.repeatSign) [] message).1 ++ ['\n'])
      [.messages] s⟩ : Outcome Unit) = _
  rw [hshorten]
  rfl

end Program

namespace Command

open Program

variable {body : List Text → Program (StateM Machine) Unit}

/-- Every program sets up first. -/
theorem exec_body_of_help (hbody : body ∈ bodies)
    (hparse : a.options.parse argv = .error (.help text)) (s : Machine) :
    (body argv).exec a s =
      Outcome.next ⟨s.out.answer.mapError .stream, a, { s with out := s.out.write text }⟩
        fun _ b t => ⟨.error .helpShown, b, t⟩ := by
  have hsetup := exec_setup_help (s := s) hparse
  rw [exec_put] at hsetup
  have hfailed : ∀ f : Unit → Program (StateM Machine) Unit, (setup argv >>= f).exec a s =
      Outcome.next ⟨s.out.answer.mapError .stream, a, { s with out := s.out.write text }⟩
        fun _ b t => ⟨.error .helpShown, b, t⟩ := by
    intro f
    rw [exec_bind, hsetup]
    change Outcome.next (Outcome.next ⟨s.out.answer.mapError .stream, _, _⟩ _) _ = _
    cases s.out.answer <;> rfl
  simp only [bodies, List.mem_cons, List.not_mem_nil, or_false] at hbody
  rcases hbody with rfl | rfl | rfl
  · exact hfailed _
  · exact hfailed _
  · exact hfailed _

/-- The exit leaves a run, once it is reported. -/
theorem runOn_of_help (hbody : body ∈ bodies)
    (hparse : (OptionStore.standard description).parse argv = .error (.help text))
    (hanswer : s.out.answer = .ok ()) :
    runOn (run description body argv) s = (.error .helpShown,
      { s with
        out := s.out.write text
        err := s.err.write (s.stampText ++ exitReport ++ ['\n']) }) := by
  have hexit : (body argv).exec (.ofOptions (.standard description)) s =
      ⟨.error .helpShown, .ofOptions (.standard description), { s with out := s.out.write text }⟩ := by
    rw [exec_body_of_help (a := .ofOptions (.standard description)) hbody hparse, hanswer]
    rfl
  have hmessage : exitReport ≠ [] := List.cons_ne_nil _ _
  rw [runOn_of_error hexit, exec_handle_exit,
    exec_log_of_no_log (a := (App.ofOptions (.standard description)).handling) rfl rfl hmessage]
  -- The logger owns no stream, so that nothing is closed.
  exact Outcome.ended_of_owned rfl

/-- A failure to show the text is settled. -/
theorem runOn_of_help_failed {cause : StreamCause} (hbody : body ∈ bodies)
    (hparse : (OptionStore.standard description).parse argv = .error (.help text))
    (hanswer : s.out.answer = .error cause) :
    runOn (run description body argv) s = (.ok 1,
      { s with
        out := s.out.write text
        err := s.err.write (s.stampText ++ (Failure.stream cause).reported ++ ['\n']) }) := by
  have hexit : (body argv).exec (.ofOptions (.standard description)) s =
      ⟨.error (.stream cause), .ofOptions (.standard description),
        { s with out := s.out.write text }⟩ := by
    rw [exec_body_of_help (a := .ofOptions (.standard description)) hbody hparse, hanswer]
    rfl
  have hmessage : (Failure.stream cause).reported ≠ [] := by
    unfold Failure.reported
    simp
  rw [runOn_of_error hexit, exec_handle (isExpected_stream cause) (Failure.isTold_stream cause),
    exec_log_of_no_log (a := (App.ofOptions (.standard description)).handling) rfl rfl hmessage]
  exact Outcome.ended_of_owned rfl

/-- A program that is asked for help, before anything that it would refuse, shows the help text and
ends with an exit. No file is read, opened or written, and no input is taken. The messages are
followed by a report of the exit, and by nothing else. If the text cannot be shown, that is settled
like any other failure. -/
theorem runOn_help (hbody : body ∈ bodies) (hkey : AsksHelp key)
    (hbefore : ∀ g ∈ (splitArguments first).groups, ∀ e,
      (OptionStore.standard description).group script g ≠ .error (.failure e))
    (rest : List Text) (s : Machine) :
    ∃ text, (OptionStore.standard description).help script = .ok text ∧
      (s.out.answer = .ok () → ∃ u,
        runOn (run description body (script :: (first ++ key :: rest))) s = (.error .helpShown, u) ∧
        u = { s with
          out := s.out.write text
          err := s.err.write (s.stampText ++ exitReport ++ ['\n']) } ∧
        u.output = s.output ++ text ∧
        (s.err.answer = .ok () →
          u.messages = s.messages ++ (s.stampText ++ exitReport ++ ['\n']))) ∧
      ∀ cause, s.out.answer = .error cause →
        runOn (run description body (script :: (first ++ key :: rest))) s = (.ok 1,
          { s with
            out := s.out.write text
            err := s.err.write (s.stampText ++ (Failure.stream cause).reported ++ ['\n']) }) := by
  obtain ⟨text, htext⟩ := (OptionStore.standard description).exists_help script
  have hparse := OptionStore.parse_of_asksHelp hkey htext hbefore rest
  refine ⟨text, htext, fun hanswer => ?_, fun cause => runOn_of_help_failed hbody hparse⟩
  exact ⟨_, runOn_of_help hbody hparse hanswer, rfl, OpenStream.taken_write_of_ok hanswer text,
    fun htaken => OpenStream.taken_write_of_ok htaken _⟩

/-- Two texts and an option stand before the request, and an unknown option after it. -/
theorem runOn_help_before_unknown :
    compareTexts ∈ bodies ∧ AsksHelp "--help=all" ∧
    (∀ g ∈ (splitArguments ["a", "b", "--strength=primary"]).groups, ∀ e,
      (OptionStore.standard compareDescription).group "prog" g ≠ .error (.failure e)) ∧
    ∃ text u, (OptionStore.standard compareDescription).help "prog" = .ok text ∧
      runOn (compare ["prog", "a", "b", "--strength=primary", "--help=all", "--unknown"])
        directoryMachine = (.error .helpShown, u) ∧
      u.tree = directoryMachine.tree ∧ u.output = text ∧
      u.messages = "[now]: Traceback (most recent call last):\nSystemExit: 0\n" := by
  have hkey : AsksHelp "--help=all" := Or.inr (Or.inr ⟨"all", rfl⟩)
  have hbefore : ∀ g ∈ (splitArguments ["a", "b", "--strength=primary"]).groups, ∀ e,
      (OptionStore.standard compareDescription).group "prog" g ≠ .error (.failure e) := by
    intro g hg e
    obtain rfl : g = ⟨"--strength=primary", []⟩ := List.mem_singleton.mp hg
    have hread : (OptionStore.standard compareDescription).group "prog"
        ⟨"--strength=primary", []⟩ = .ok ("strength", .text "primary") := rfl
    rw [hread]
    exact nofun
  obtain ⟨text, htext, hshown, -⟩ :=
    runOn_help compareTexts_mem_bodies hkey hbefore ["--unknown"] directoryMachine
  obtain ⟨u, hrun, hu, houtput, hmessages⟩ := hshown rfl
  exact ⟨compareTexts_mem_bodies, hkey, hbefore, text, u, htext, hrun, by rw [hu], houtput,
    hmessages rfl⟩

/-- A request on its own is reported like a failure. -/
theorem runOn_help_reported : AsksHelp "--help" ∧
    ∃ text, (OptionStore.standard compareDescription).help "p" = .ok text ∧
      ∃ u, runOn (compare ["p", "--help"]) directoryMachine = (.error .helpShown, u) ∧
        u.output = text ∧ u.messages ≠ directoryMachine.messages := by
  have hkey : AsksHelp "--help" := Or.inr (Or.inl rfl)
  have hbefore : ∀ g ∈ (splitArguments []).groups, ∀ e,
      (OptionStore.standard compareDescription).group "p" g ≠ .error (.failure e) :=
    List.forall_mem_nil _
  obtain ⟨text, htext⟩ := (OptionStore.standard compareDescription).exists_help "p"
  have hrun := runOn_of_help (s := directoryMachine) compareTexts_mem_bodies
    (OptionStore.parse_of_asksHelp hkey htext hbefore []) rfl
  exact ⟨hkey, text, htext, _, hrun, rfl, List.cons_ne_nil _ _⟩

end Command

end Collation
