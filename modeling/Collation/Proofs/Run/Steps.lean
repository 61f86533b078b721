import Collation.Proofs.Run.Log
import Collation.Proofs.Sort

/-! The steps of an application are careful, from the options to the sort. -/

namespace Collation

open Program

namespace OptionStore

variable (o : OptionStore)

theorem careful_path (name : Text) :
    Careful Machine.shown (o.path name : Program (StateM Machine) Text) := by
  unfold path
  split
  · rename_i e he
    exact yields_throw (o.tells_get name e he)
  · exact yields_bind (careful_liftM fun _ _ => ⟨rfl, rfl⟩) fun _ _ => careful_pure _
  · exact yields_throw rfl
  · exact yields_throw rfl

theorem careful_logPath : Careful Machine.shown (o.logPath : Program (StateM Machine) Text) := by
  unfold logPath
  split
  · rename_i e he
    exact yields_throw (o.tells_get "log" e he)
  · split
    · refine yields_bind (o.careful_path "log") fun p _ => ?_
      exact yields_bind (Host.careful_makeWay p) fun _ _ => careful_pure p
    · exact careful_pure _

theorem careful_readSection (path name : Text) (vs : Config.Values) :
    Careful Machine.shown
      (Config.readSection path name vs : Program (StateM Machine) (Config.Values × Bool)) := by
  refine yields_bind (careful_liftM fun _ _ => ⟨rfl, rfl⟩) fun content _ => ?_
  split
  · exact careful_pure _
  · exact yields_throw rfl
  · split
    · rename_i e he
      exact yields_throw (Config.tells_read path _ e he)
    · exact careful_pure _

theorem careful_loadConfig :
    Careful Machine.shown (o.loadConfig : Program (StateM Machine) (OptionStore × Bool)) := by
  refine yields_bind (o.careful_path "config") fun p _ => ?_
  exact yields_bind (careful_readSection p _ _) fun _ _ => careful_pure _

end OptionStore

/-! The logger is opened when it is first needed. -/

namespace Logger

theorem yields_openFiles (paths : List Text) :
    Yields Machine.shown (fun streams => ∃ ns : List Nat, streams = ns.map Stream.file)
      (openFiles paths : Program (StateM Machine) (List Stream)) := by
  induction paths with
  | nil => exact yields_pure ⟨[], rfl⟩
  | cons path paths ih =>
    rw [openFiles]
    split
    · exact ih
    · have hopen : Yields Machine.shown (fun stream => ∃ n, stream = Stream.file n)
          (Host.attemptFile path (Host.openEnd path : StateT App (StateM Machine) _) :
            Program (StateM Machine) Stream) :=
        Host.yields_attemptFile path fun a s =>
          ⟨rfl, s.shown_openEnd path, fun _ => s.file_of_openEnd⟩
      refine yields_bind hopen fun stream hstream => yields_bind ih fun streams hstreams => ?_
      obtain ⟨n, rfl⟩ := hstream
      obtain ⟨ns, rfl⟩ := hstreams
      exact yields_pure ⟨n :: ns, rfl⟩

theorem yields_openLogger (paths : List Text) (mark : Option Text) :
    Yields Machine.shown IsTidy
      (openLogger paths false true .time mark : Program (StateM Machine) Logger) := by
  refine yields_bind (yields_openFiles paths) fun files ⟨ns, hfiles⟩ => ?_
  exact yields_pure ⟨⟨ns, by rw [hfiles]; rfl⟩, ⟨ns, hfiles⟩, rfl, Or.inl rfl⟩

end Logger

namespace Program

variable {l : Logger} {message : Text}

theorem tidy_withLogger (hl : l.IsTidy) (a : App) : { a with logger := some l }.IsTidy := by
  rintro l' ⟨⟩
  exact hl

theorem yields_logger :
    Yields Machine.shown Logger.IsTidy (logger : Program (StateM Machine) Logger) := by
  refine yields_bind yields_get fun a ha => ?_
  split
  · rename_i l hl
    exact yields_pure (ha l hl)
  · refine yields_bind yields_get fun b _ => ?_
    refine yields_bind b.options.careful_logPath fun path _ => ?_
    refine yields_bind (Logger.yields_openLogger _ _) fun l hl => ?_
    exact yields_bind (careful_modify fun a _ => tidy_withLogger hl a) fun _ _ => yields_pure hl

/-- A notice is written to the messages, and to no results. -/
theorem careful_log (hmessage : IsNotice message) :
    Careful Machine.results (log message : Program (StateM Machine) Unit) := by
  refine yields_bind (yields_results yields_logger) fun l hl => ?_
  refine yields_bind (P := Logger.IsTidy) (fun a s ha => ?_) fun l' hl' => ?_
  · rw [exec_logWith hl.stamp]
    refine ⟨ha, hl.results_tell _ s, nofun, fun l' h => ?_⟩
    obtain rfl := Except.ok.inj h
    exact hl.log hmessage
  · exact careful_modify fun a _ => tidy_withLogger hl' a

/-! The rules, the table, the collator and the sort. -/

theorem careful_ruleText : Careful Machine.shown (ruleText : Program (StateM Machine) Value) := by
  refine yields_bind yields_get fun a _ => ?_
  split
  · exact careful_pure _
  · refine yields_bind yields_get fun b _ => ?_
    refine yields_bind (careful_ofExcept (b.options.tells_get _)) fun given _ => ?_
    have hkeep : ∀ v : Value, Careful Machine.shown
        (do modify ({ · with rules := some v }); return v : Program (StateM Machine) Value) :=
      fun v => yields_bind (careful_modify fun _ ha => ha) fun _ _ => careful_pure v
    dsimp only
    split
    · exact yields_bind (careful_pure given) fun v _ => hkeep v
    · refine yields_bind (b.options.careful_path _) fun path _ => ?_
      refine yields_bind (Host.careful_readText path) fun content _ => ?_
      exact yields_bind (careful_pure _) fun v _ => hkeep v

theorem isNotice_loadedMessage (t : Table) : IsNotice (App.loadedMessage t) := by
  unfold App.loadedMessage
  simp only [List.append_assoc]
  exact Or.inl (List.prefix_append _ _)

theorem careful_tailoring :
    Careful Machine.results (tailoring : Program (StateM Machine) Tailoring) := by
  refine yields_bind yields_get fun a _ => ?_
  split
  · exact careful_pure _
  · refine yields_bind (yields_results careful_ruleText) fun rules _ => ?_
    refine yields_bind yields_get fun b _ => ?_
    refine yields_bind (careful_ofExcept b.options.tells_form) fun form _ => ?_
    refine yields_bind (careful_ofExcept (App.tells_tailoringOf form rules)) fun t _ => ?_
    refine yields_bind (careful_log (isNotice_loadedMessage t.table)) fun _ _ => ?_
    exact yields_bind (careful_modify fun _ ha => ha) fun _ _ => careful_pure _

theorem careful_collator :
    Careful Machine.results (collator : Program (StateM Machine) Collator) := by
  refine yields_bind yields_get fun a _ => ?_
  split
  · exact careful_pure _
  · refine yields_bind careful_tailoring fun t _ => ?_
    refine yields_bind yields_get fun b _ => ?_
    refine yields_bind (careful_ofExcept b.options.tells_strength) fun s _ => ?_
    refine yields_bind (careful_ofExcept (b.options.tells_get _)) fun processes _ => ?_
    exact yields_bind (careful_modify fun _ ha => ha) fun _ _ => careful_pure _

theorem careful_compare (a b : Word) :
    Careful Machine.results (compare a b : Program (StateM Machine) Ordering) :=
  yields_bind careful_collator fun _ _ => careful_pure _

theorem careful_sort (ws : List Word) :
    Careful Machine.results (sort ws : Program (StateM Machine) (List Word)) := by
  refine yields_bind careful_collator fun c _ => ?_
  have hsort := c.sort_fst ws
  rcases hwords : c.sort ws with ⟨result, notice⟩
  rw [hwords] at hsort
  obtain rfl : result = _ := hsort
  cases notice with
  | true =>
    have hnotice : Careful Machine.results
        (Host.put .messages Workers.notice : Program (StateM Machine) Unit) :=
      Host.careful_put _ _ fun _ => rfl
    exact yields_bind hnotice fun _ _ => careful_pure _
  | false => exact careful_pure _

end Program

end Collation
