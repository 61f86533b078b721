import Collation.Proofs.Run.Options
import Collation.Proofs.Run.Steps

/-! The bodies of the programs. Whatever else can fail comes before the results, so that a body that
fails has written none, unless writing them is what fails. -/

namespace Collation

variable {α β : Type} {P : α → Prop}

/-- No results were written before a failure, or writing them failed on the way. -/
def Machine.FailsWith (s t : Machine) (e : Failure) : Prop :=
  t.results = s.results ∨
    (∃ cause, e = .stream cause) ∧ s.output <+: t.output ∧ t.stampText = s.stampText

/-- A failure has a message and comes before any results or from one, unless it is the end of a run
that shows the help text. -/
structure Outcome.Prudent (s : Machine) (o : Outcome α) : Prop where
  tidy : o.app.IsTidy
  kept : ∀ e, o.result = .error e → e = .helpShown ∨ e.isTold = true ∧ s.FailsWith o.machine e

/-- Results are written after those before, or fail to be. Nothing else is done. -/
structure Outcome.Printing (a : App) (s : Machine) (o : Outcome α) : Prop where
  app : o.app = a
  output : s.output <+: o.machine.output
  stampText : o.machine.stampText = s.stampText
  failed : ∀ e, o.result = .error e → ∃ cause, e = .stream cause

theorem Machine.FailsWith.of_results {s t u : Machine} {e : Failure} (h : t.FailsWith u e)
    (hkept : t.results = s.results) : s.FailsWith u e := by
  rcases h with hresults | ⟨hstream, houtput, hstamp⟩
  · exact Or.inl (hresults.trans hkept)
  · rw [Machine.output_of_results hkept] at houtput
    exact Or.inr ⟨hstream, houtput, hstamp.trans (congrArg Prod.snd hkept)⟩

theorem Machine.FailsWith.stampText {s t : Machine} {e : Failure} (h : s.FailsWith t e) :
    t.stampText = s.stampText := by
  rcases h with hresults | ⟨-, -, hstamp⟩
  · exact congrArg Prod.snd hresults
  · exact hstamp

theorem Machine.FailsWith.output {s t : Machine} {e : Failure} (h : s.FailsWith t e) :
    t.output = s.output ∨ (∃ cause, e = .stream cause) ∧ s.output <+: t.output := by
  rcases h with hresults | ⟨hstream, houtput, -⟩
  · exact Or.inl (Machine.output_of_results hresults)
  · exact Or.inr ⟨hstream, houtput⟩

theorem Failure.isTold_stream (cause : StreamCause) : (Failure.stream cause).isTold = true := rfl

namespace Program

variable {x : Program (StateM Machine) α} {f : α → Program (StateM Machine) β}

def Prudent (x : Program (StateM Machine) α) : Prop :=
  ∀ a s, a.IsTidy → (x.exec a s).Prudent s

def Printing (x : Program (StateM Machine) α) : Prop :=
  ∀ a s, (x.exec a s).Printing a s

theorem prudent_of_yields (hx : Yields Machine.results P x) : Prudent x := by
  intro a s ha
  obtain ⟨tidy, kept, told, -⟩ := hx a s ha
  exact ⟨tidy, fun e h => Or.inr ⟨told e h, Or.inl kept⟩⟩

theorem prudent_of_printing (hx : Printing x) : Prudent x := by
  intro a s ha
  obtain ⟨happ, houtput, hstamp, hfailed⟩ := hx a s
  refine ⟨by rwa [happ], fun e h => Or.inr ?_⟩
  obtain ⟨cause, rfl⟩ := hfailed e h
  exact ⟨Failure.isTold_stream cause, Or.inr ⟨⟨cause, rfl⟩, houtput, hstamp⟩⟩

theorem prudent_bind (hx : Yields Machine.results P x) (hf : ∀ v, P v → Prudent (f v)) :
    Prudent (x >>= f) := by
  intro a s ha
  obtain ⟨tidy, kept, told, holds⟩ := hx a s ha
  rw [exec_bind]
  unfold Outcome.next
  cases hresult : (x.exec a s).result with
  | error e =>
    refine ⟨tidy, fun e' h => Or.inr ⟨?_, Or.inl kept⟩⟩
    obtain rfl : e = e' := Except.error.inj h
    exact told e hresult
  | ok v =>
    obtain ⟨tidy', kept'⟩ := hf v (holds v hresult) _ (x.exec a s).machine tidy
    refine ⟨tidy', fun e h => (kept' e h).imp_right fun hkept => ?_⟩
    exact ⟨hkept.1, hkept.2.of_results kept⟩

theorem printing_pure (v : α) : Printing (pure v : Program (StateM Machine) α) :=
  fun _ _ => ⟨rfl, List.prefix_rfl, rfl, nofun⟩

theorem printing_bind (hx : Printing x) (hf : ∀ v, Printing (f v)) : Printing (x >>= f) := by
  intro a s
  obtain ⟨happ, houtput, hstamp, hfailed⟩ := hx a s
  rw [exec_bind]
  unfold Outcome.next
  cases hresult : (x.exec a s).result with
  | error e =>
    refine ⟨happ, houtput, hstamp, fun e' h => ?_⟩
    obtain rfl : e = e' := Except.error.inj h
    exact hfailed e hresult
  | ok v =>
    obtain ⟨happ', houtput', hstamp', hfailed'⟩ := hf v (x.exec a s).app (x.exec a s).machine
    exact ⟨happ'.trans happ, houtput.trans houtput', hstamp'.trans hstamp, hfailed'⟩

theorem printing_put (t : Text) :
    Printing (Host.put .output t : Program (StateM Machine) Unit) := by
  intro a s
  rw [exec_put]
  refine ⟨rfl, s.out.taken_prefix_write t, rfl, fun e h => ?_⟩
  dsimp only at h
  generalize (s.write .output t).1 = r at h
  cases r with
  | ok v => cases h
  | error cause => exact ⟨cause, (Except.error.inj h).symm⟩

theorem printing_forM {g : α → Program (StateM Machine) PUnit} (hg : ∀ v, Printing (g v))
    (vs : List α) : Printing (vs.forM g) := by
  induction vs with
  | nil => exact printing_pure _
  | cons v vs ih => exact printing_bind (hg v) fun _ => ih

/-! Setting up ends the run if it shows the help text. -/

theorem prudent_setup_bind (argv : List Text) {f : Unit → Program (StateM Machine) β}
    (hf : ∀ v, Prudent (f v)) : Prudent (setup argv >>= f) := by
  intro a s ha
  cases hparse : a.options.parse argv with
  | error stop =>
    cases stop with
    | failure e =>
      rw [exec_bind_of_error (exec_setup_failure hparse)]
      refine ⟨ha, fun e' h => Or.inr ⟨?_, Or.inl rfl⟩⟩
      obtain rfl : e = e' := Except.error.inj h
      exact a.options.told_of_parse hparse
    | help text =>
      -- If the text cannot be shown, that is what ends the run.
      obtain ⟨happ, houtput, hstamp, hfailed⟩ := printing_put text a s
      rw [exec_bind, exec_setup_help hparse]
      cases hresult : (exec (Host.put .output text) a s).result with
      | error e =>
        obtain ⟨cause, rfl⟩ := hfailed e hresult
        simp only [Outcome.next, hresult]
        refine ⟨by rwa [happ], fun e' h => Or.inr ?_⟩
        obtain rfl := Except.error.inj h
        exact ⟨Failure.isTold_stream cause, Or.inr ⟨⟨cause, rfl⟩, houtput, hstamp⟩⟩
      | ok v =>
        simp only [Outcome.next, hresult]
        exact ⟨by rwa [happ], fun e h => Or.inl (Except.error.inj h).symm⟩
  | ok o =>
    rw [exec_bind, exec_setup_ok hparse, ← exec_bind]
    refine prudent_bind (P := fun _ => True) ?_ (fun v _ => hf v) a s ha
    refine yields_bind (careful_modify fun _ ha => ha) fun _ _ => ?_
    refine yields_bind (yields_results o.careful_loadConfig) fun loaded _ => ?_
    exact careful_modify fun _ ha => ha

end Program

namespace Command

open Program

theorem careful_readLines (names : List Text) :
    Careful Machine.shown (readLines names : Program (StateM Machine) (List Text)) := by
  induction names with
  | nil => exact careful_pure _
  | cons name names ih =>
    rw [readLines]
    have hrest : ∀ content : Text, Careful Machine.shown
        (do return Text.lines content ++ (← readLines names) :
          Program (StateM Machine) (List Text)) :=
      fun content => yields_bind ih fun _ _ => careful_pure _
    dsimp only
    split
    · exact yields_bind Host.careful_readInput fun content _ => hrest content
    · exact yields_bind (Host.careful_readText name) fun content _ => hrest content

theorem careful_clock : Careful Machine.shown (clock : Program (StateM Machine) Nat) :=
  careful_liftM fun _ _ => ⟨rfl, rfl⟩

theorem isNotice_sortedMessage (count milliseconds : Nat) :
    IsNotice (sortedMessage count milliseconds) := by
  unfold sortedMessage
  simp only [List.append_assoc]
  exact Or.inr (List.prefix_append _ _)

theorem prudent_sortLines (argv : List Text) :
    Prudent (sortLines argv : Program (StateM Machine) Unit) := by
  refine prudent_setup_bind argv fun _ => ?_
  refine prudent_bind careful_collator fun _ _ => ?_
  refine prudent_bind yields_get fun a _ => ?_
  refine prudent_bind (yields_results (careful_readLines _)) fun lines _ => ?_
  refine prudent_bind (yields_results careful_clock) fun start _ => ?_
  refine prudent_bind (careful_sort _) fun result _ => ?_
  refine prudent_bind (yields_results careful_clock) fun stop _ => ?_
  refine prudent_bind (careful_log (isNotice_sortedMessage _ _)) fun _ _ => ?_
  exact prudent_of_printing (printing_forM (fun _ => printing_put _) _)

theorem prudent_compareTexts (argv : List Text) :
    Prudent (compareTexts argv : Program (StateM Machine) Unit) := by
  refine prudent_setup_bind argv fun _ => ?_
  refine prudent_bind yields_get fun a _ => ?_
  split
  · exact prudent_bind (careful_compare _ _) fun _ _ => prudent_of_printing (printing_put _)
  · exact prudent_of_yields (yields_throw (P := fun _ => True) rfl)

theorem prudent_showTable (argv : List Text) :
    Prudent (showTable argv : Program (StateM Machine) Unit) := by
  refine prudent_setup_bind argv fun _ => ?_
  refine prudent_bind careful_tailoring fun t _ => ?_
  exact prudent_of_printing (printing_forM (fun _ => printing_put _) _)

end Command

end Collation
