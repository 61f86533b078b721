import Collation.Proofs.Run.Local

/-! The end of a run. The log is closed whatever happens and nothing is taken from a file, and the code
is 0 if the body of the program comes to an end and its log can be closed. -/

namespace Collation

variable {α : Type} {e : Failure} {a b : App} {s t u : Machine}

namespace App

/-- The streams that are closed at the end of a run. -/
def owned (a : App) : List Stream :=
  (a.logger.map (·.owned)).getD []

def OwnsFiles (a : App) : Prop :=
  ∃ ns : List Nat, a.owned = ns.map Stream.file

theorem owned_of_logger {l : Logger} (h : a.logger = some l) : a.owned = l.owned := by
  rw [owned, h]
  rfl

theorem owned_of_none (h : a.logger = none) : a.owned = [] := by
  rw [owned, h]
  rfl

theorem IsTidy.ownsFiles (ha : a.IsTidy) : a.OwnsFiles := by
  cases hl : a.logger with
  | none => exact ⟨[], owned_of_none hl⟩
  | some l =>
    obtain ⟨ns, hns⟩ := (ha l hl).owned
    exact ⟨ns, (owned_of_logger hl).trans hns⟩

end App

namespace Machine

theorem extends_closeOwned (ha : a.OwnsFiles) (s : Machine) :
    s.Extends (upTo close a.owned s).2 := by
  obtain ⟨ns, hns⟩ := ha
  rw [hns]
  exact s.extends_closeFiles ns

theorem shown_closeOwned (ha : a.OwnsFiles) (s : Machine) :
    (upTo close a.owned s).2.shown = s.shown := by
  obtain ⟨ns, hns⟩ := ha
  rw [hns]
  exact s.shown_closeFiles ns

/-- Files that take what they are given close well. -/
theorem IsSound.closeFile (hs : s.IsSound) (n : Nat) : (s.closeFile n).1 = .ok () := by
  unfold Machine.closeFile
  split
  · rfl
  · next o ho => exact (hs.streams o (List.mem_of_getElem? ho)).closingAnswer

theorem IsSound.closeFiles (hs : s.IsSound) (ns : List Nat) :
    (upTo close (ns.map Stream.file) s).1 = .ok () := by
  refine upTo_of_ok (P := IsSound) (fun stream hstream t ht => ?_) (fun stream hstream t ht => ?_) hs
  · obtain ⟨n, -, rfl⟩ := List.mem_map.mp hstream
    exact ht.closeFile n
  · obtain ⟨n, -, rfl⟩ := List.mem_map.mp hstream
    exact (t.extends_closeFile n).sound ht

theorem IsSound.closeOwned (hs : s.IsSound) (ha : a.OwnsFiles) :
    (upTo close a.owned s).1 = .ok () := by
  obtain ⟨ns, hns⟩ := ha
  rw [hns]
  exact hs.closeFiles ns

end Machine

namespace Outcome

/-- What an outcome comes to once the log is closed. A failure to close it takes the place of the
result. -/
def ended (o : Outcome α) : Except Failure α × Machine :=
  let closed := Machine.upTo Machine.close o.app.owned o.machine
  (closed.1.mapError Failure.stream >>= fun _ => o.result, closed.2)

variable {o : Outcome α}

theorem ended_of_ok (h : (Machine.upTo Machine.close o.app.owned o.machine).1 = .ok ()) :
    o.ended = (o.result, (Machine.upTo Machine.close o.app.owned o.machine).2) := by
  unfold ended
  dsimp only
  rw [h]
  rfl

theorem ended_of_owned (h : o.app.owned = []) : o.ended = (o.result, o.machine) := by
  unfold ended
  rw [h]
  rfl

/-- A result is the one before the log was closed. -/
theorem result_of_ended {v : α} (h : o.ended.1 = .ok v) : o.result = .ok v := by
  unfold ended at h
  dsimp only at h
  generalize (Machine.upTo Machine.close o.app.owned o.machine).1 = r at h
  cases r with
  | ok v => exact h
  | error cause => cases h

end Outcome

namespace Program

theorem exec_close (a : App) (s : Machine) : ∃ b, close.exec a s =
    ⟨(Machine.upTo Machine.close a.owned s).1.mapError .stream, b,
      (Machine.upTo Machine.close a.owned s).2⟩ := by
  cases ha : a.logger with
  | none =>
    refine ⟨a, ?_⟩
    unfold close
    rw [exec_bind_of_ok (exec_get a s), ha, App.owned_of_none ha]
    rfl
  | some l =>
    have hloop := exec_forM (fun stream a s => exec_shut stream a s) l.owned a s
    unfold close
    rw [exec_bind_of_ok (exec_get a s), ha, App.owned_of_logger ha]
    dsimp only
    rw [Logger.close, exec_bind, exec_bind, hloop]
    cases (Machine.upTo Machine.close l.owned s).1 with
    | ok v => exact ⟨_, rfl⟩
    | error cause => exact ⟨_, rfl⟩

/-- Opening the log and writing to it take nothing from a file. -/
theorem extends_logger (a : App) (s : Machine) : s.Extends (logger.exec a s).machine := by
  cases ha : a.logger with
  | none =>
    rw [exec_logger ha a]
    have hopen := (local_openLog a.options a a s).2
    split
    · exact hopen
    · exact hopen
  | some l =>
    unfold logger
    rw [exec_bind_of_ok (exec_get a s), ha]
    exact s.extends_refl

/-- A log that cannot be opened is not there afterwards. -/
theorem logger_of_exec_logger_error (h : logger.exec a s = ⟨.error e, b, t⟩) : b.logger = none := by
  cases ha : a.logger with
  | none =>
    rw [exec_logger ha a] at h
    split at h
    · cases h
    · obtain rfl : a = b := congrArg Outcome.app h
      exact ha
  | some l =>
    unfold logger at h
    rw [exec_bind_of_ok (exec_get a s), ha] at h
    cases h

theorem log_after_logger (ha : a.IsTidy) (message : Text) (s : Machine) :
    s.Extends ((log message).exec a s).machine ∧ ((log message).exec a s).app.OwnsFiles := by
  have hopened := extends_logger a s
  obtain ⟨htidy, -, -, hholds⟩ := yields_logger a s ha
  rcases hlogger : logger.exec a s with ⟨e | l, b, t⟩
  · rw [hlogger] at hopened htidy
    rw [log, exec_bind_of_error hlogger]
    exact ⟨hopened, htidy.ownsFiles⟩
  · rw [hlogger] at hopened hholds
    have hl : l.IsTidy := hholds l rfl
    rw [exec_log hlogger hl.stamp]
    exact ⟨hopened.trans (Machine.extends_tell _ _ t), hl.owned⟩

/-! What handling a failure comes to. It is logged once at most, by its message or with a report. -/

theorem exec_handle_of_message {message : Text}
    (he : [Family.collation, .system, .value].any e.family.isA = true)
    (hmessage : e.message? = some message) :
    (handle e).exec a s =
      ((log (e.family.label ++ ": " ++ message)).exec { a with handlesFailures := true } s).next
        fun _ b t => ⟨.ok true, b, t⟩ := by
  unfold handle
  rw [exec_bind, exec_modify]
  simp only [App.handler, Handler.handle, Handler.handleFirst, he, hmessage, if_true]
  -- The rest of the handlers stays unread: the first one settles every such failure.
  change exec (do
    let settled ← (do log (e.family.label ++ ": " ++ message); return true)
    if settled then return true else _) { a with handlesFailures := true } s = _
  rw [exec_bind, exec_bind]
  rcases (log (e.family.label ++ ": ".toList ++ message)).exec
    { a with handlesFailures := true } s with ⟨_ | _, b, t⟩ <;> rfl

theorem exec_handle_of_no_message
    (he : [Family.collation, .system, .value].any e.family.isA = true)
    (hmessage : e.message? = none) :
    (handle e).exec a s = ⟨.error .type, { a with handlesFailures := true }, s⟩ := by
  unfold handle
  rw [exec_bind, exec_modify]
  simp only [App.handler, Handler.handle, Handler.handleFirst, he, hmessage, if_true]
  rfl

theorem exec_handle_of_unexpected
    (he : [Family.collation, .system, .value].any e.family.isA = false) :
    (handle e).exec a s =
      ((log (Handler.Raised.reportText ⟨e.family, e, true⟩)).exec
        { a with handlesFailures := true } s).next fun _ b t => ⟨.ok false, b, t⟩ := by
  unfold handle
  rw [exec_bind, exec_modify]
  simp only [App.handler, Handler.handle, Handler.handleFirst, he, Bool.false_eq_true, if_false]
  change exec (do
    let settled ← (do log (Handler.Raised.reportText ⟨e.family, e, true⟩); return false)
    if settled then return true else return false) { a with handlesFailures := true } s = _
  rw [exec_bind, exec_bind]
  rcases (log (Handler.Raised.reportText ⟨e.family, e, true⟩)).exec
    { a with handlesFailures := true } s with ⟨_ | _, b, t⟩ <;> rfl

/-- Whatever is told of a failure, files are only added to, and no stream but files is owned. -/
theorem handle_after_log (ha : a.IsTidy) (e : Failure) (s : Machine) :
    s.Extends ((handle e).exec a s).machine ∧ ((handle e).exec a s).app.OwnsFiles := by
  have htidy : { a with handlesFailures := true }.IsTidy := ha
  cases he : [Family.collation, .system, .value].any e.family.isA with
  | true =>
    cases hmessage : e.message? with
    | none =>
      rw [exec_handle_of_no_message he hmessage]
      exact ⟨s.extends_refl, htidy.ownsFiles⟩
    | some message =>
      rw [exec_handle_of_message he hmessage, Outcome.machine_next_ok, Outcome.app_next_ok]
      exact log_after_logger htidy _ s
  | false =>
    rw [exec_handle_of_unexpected he, Outcome.machine_next_ok, Outcome.app_next_ok]
    exact log_after_logger htidy _ s

end Program

namespace Command

open Program

variable {body : List Text → Program (StateM Machine) Unit} {x : Program (StateM Machine) Unit}
  {description : Text} {argv : List Text}

theorem exec_guarded_of_ok (h : x.exec a s = ⟨.ok (), b, t⟩) :
    (guarded x).exec a s = ⟨.ok 0, b, t⟩ := by
  unfold guarded
  rw [exec_bind, exec_tryCatch, exec_bind_of_ok h]
  rfl

theorem exec_guarded_of_error (h : x.exec a s = ⟨.error e, b, t⟩) :
    (guarded x).exec a s = ((handle e).exec b t).next fun settled =>
      exec (if settled then return 1 else throw e) := by
  unfold guarded
  rw [exec_bind, exec_tryCatch_of_error (exec_bind_of_error h), exec_bind]
  rcases (handle e).exec b t with ⟨_ | settled, b', t'⟩
  · rfl
  · cases settled <;> rfl

/-- The result of a run, and the machine after it. -/
def runOn (x : Attempt (StateM Machine) α) (s : Machine) : Except Failure α × Machine :=
  StateT.run (ExceptT.run x) s

/-- A run ends as its guarded body does, once the log is closed. -/
theorem runOn_eq {o : Outcome Int}
    (ho : (guarded (body argv)).exec (App.ofOptions (.standard description)) s = o) :
    runOn (run description body argv) s = o.ended := by
  obtain ⟨b, hclose⟩ := exec_close o.app o.machine
  have hlift : exec (ExceptT.lift (ExceptT.run (guarded (body argv))))
      (App.ofOptions (.standard description)) s = ⟨.ok o.result, o.app, o.machine⟩ := by
    rw [← ho]
    rfl
  have hclosing : (closing (guarded (body argv))).exec (App.ofOptions (.standard description)) s =
      ⟨o.ended.1, b, o.ended.2⟩ := by
    unfold closing Outcome.ended
    rw [exec_bind_of_ok hlift, exec_bind, hclose]
    dsimp only
    cases (Machine.upTo Machine.close o.app.owned o.machine).1 with
    | ok v => cases o.result <;> rfl
    | error cause => rfl
  exact congrArg (fun o : Outcome Int => (o.result, o.machine)) hclosing

/-- What a run comes to whose body fails is what its handler makes of the failure. -/
theorem runOn_of_error
    (h : (body argv).exec (App.ofOptions (.standard description)) s = ⟨.error e, a, t⟩) :
    runOn (run description body argv) s = (((handle e).exec a t).next fun settled =>
      exec (if settled then return 1 else throw e)).ended :=
  runOn_eq (exec_guarded_of_error h)

theorem runOn_of_ok
    (h : (body argv).exec (App.ofOptions (.standard description)) s = ⟨.ok (), a, t⟩) :
    runOn (run description body argv) s = Outcome.ended ⟨.ok 0, a, t⟩ :=
  runOn_eq (exec_guarded_of_ok h)

/-- The code is 0 only if nothing has failed. -/
theorem exec_of_runOn_zero (description : Text)
    (body : List Text → Program (StateM Machine) Unit)
    (h : runOn (run description body argv) s = (.ok 0, u)) :
    ∃ a t, (body argv).exec (App.ofOptions (.standard description)) s = ⟨.ok (), a, t⟩ ∧
      u = (Machine.upTo Machine.close a.owned t).2 := by
  rcases hbody : (body argv).exec (App.ofOptions (.standard description)) s with ⟨e | _, a, t⟩
  · rw [runOn_of_error hbody] at h
    have hzero := Outcome.result_of_ended (congrArg Prod.fst h)
    rcases hhandle : (handle e).exec a t with ⟨e' | settled, b, v⟩
    · rw [hhandle] at hzero
      contradiction
    · rw [hhandle] at hzero
      cases settled with
      | true => exact absurd (Except.ok.inj hzero) (by decide)
      | false => contradiction
  · rw [runOn_of_ok hbody] at h
    exact ⟨a, t, rfl, (congrArg Prod.snd h).symm⟩

/-- Whatever becomes of a run, nothing is taken from a file after its body. -/
theorem extends_runOn {r : Except Failure Unit} (ha : a.IsTidy)
    (h : (body argv).exec (App.ofOptions (.standard description)) s = ⟨r, a, t⟩) :
    t.Extends (runOn (run description body argv) s).2 := by
  cases r with
  | ok _ =>
    rw [runOn_of_ok h]
    exact t.extends_closeOwned ha.ownsFiles
  | error e =>
    obtain ⟨hhandled, howned⟩ := handle_after_log ha e t
    rw [runOn_of_error h]
    generalize (handle e).exec a t = o at hhandled howned ⊢
    rcases o with ⟨e' | settled, b, v⟩
    · exact hhandled.trans (v.extends_closeOwned howned)
    · cases settled <;> exact hhandled.trans (v.extends_closeOwned howned)

end Command

end Collation
