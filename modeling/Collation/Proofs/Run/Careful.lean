import Collation.Proofs.Run.Outcome
import Collation.Proofs.Run.Told

/-! Careful actions. They write no results, fail only with failures that have a message, and leave an
application whose logger is in order. What is put together from careful actions is careful. -/

namespace Collation

/-- The standard streams of a machine, and what it puts before messages. -/
def Machine.shown (s : Machine) : OpenStream × OpenStream × Text :=
  (s.out, s.err, s.stampText)

/-- The same without messages. -/
def Machine.results (s : Machine) : OpenStream × Text :=
  (s.out, s.stampText)

/-- What a program logs if nothing fails. -/
def IsNotice (message : Text) : Prop :=
  "Loaded ".toList <+: message ∨ "Sorted ".toList <+: message

/-- A logger that writes to files and then to the messages, owns files only, and has not logged a
failure yet. -/
structure Logger.IsTidy (l : Logger) : Prop where
  streams : ∃ ns : List Nat, l.streams = ns.map Stream.file ++ [.messages]
  owned : ∃ ns : List Nat, l.owned = ns.map Stream.file
  stamp : l.stamp = .time
  last : l.last = [] ∨ IsNotice l.last

def App.IsTidy (a : App) : Prop :=
  ∀ l ∈ a.logger, l.IsTidy

theorem Machine.results_of_shown {s t : Machine} {err : OpenStream}
    (h : t.shown = (s.out, err, s.stampText)) : t.results = s.results :=
  congrArg (fun p : OpenStream × OpenStream × Text => (p.1, p.2.2)) h

theorem Machine.output_of_shown {s t : Machine} (h : t.shown = s.shown) : t.output = s.output :=
  congrArg (fun p : OpenStream × OpenStream × Text => p.1.taken) h

theorem Machine.stampText_of_shown {s t : Machine} (h : t.shown = s.shown) :
    t.stampText = s.stampText :=
  congrArg (fun p : OpenStream × OpenStream × Text => p.2.2) h

theorem Machine.output_of_results {s t : Machine} (h : t.results = s.results) :
    t.output = s.output :=
  congrArg (fun p : OpenStream × Text => p.1.taken) h

variable {α β γ : Type} {view : Machine → γ} {P : α → Prop} {Q : β → Prop}

structure Outcome.Careful (view : Machine → γ) (P : α → Prop) (s : Machine) (o : Outcome α) :
    Prop where
  tidy : o.app.IsTidy
  kept : view o.machine = view s
  told : ∀ e, o.result = .error e → e.isTold = true
  holds : ∀ v, o.result = .ok v → P v

namespace Program

variable {x : Program (StateM Machine) α} {f : α → Program (StateM Machine) β}

/-- Every outcome is careful, keeps what `view` tells of the machine, and has a result with a
property if it has any. -/
def Yields (view : Machine → γ) (P : α → Prop) (x : Program (StateM Machine) α) : Prop :=
  ∀ a s, a.IsTidy → (x.exec a s).Careful view P s

abbrev Careful (view : Machine → γ) (x : Program (StateM Machine) α) : Prop :=
  Yields view (fun _ => True) x

theorem yields_results (hx : Yields Machine.shown P x) : Yields Machine.results P x := by
  intro a s ha
  obtain ⟨tidy, kept, told, holds⟩ := hx a s ha
  exact ⟨tidy, Machine.results_of_shown kept, told, holds⟩

theorem yields_pure {v : α} (hv : P v) : Yields view P (pure v : Program (StateM Machine) α) := by
  refine fun a s ha => ⟨ha, rfl, nofun, fun w h => ?_⟩
  obtain rfl : v = w := Except.ok.inj h
  exact hv

theorem careful_pure (v : α) : Careful view (pure v : Program (StateM Machine) α) :=
  yields_pure trivial

theorem yields_throw {e : Failure} (he : e.isTold = true) :
    Yields view P (throw e : Program (StateM Machine) α) := by
  refine fun a s ha => ⟨ha, rfl, fun e' h => ?_, nofun⟩
  obtain rfl : e = e' := Except.error.inj h
  exact he

theorem yields_get : Yields view App.IsTidy (get : Program (StateM Machine) App) := by
  refine fun a s ha => ⟨ha, rfl, nofun, fun b h => ?_⟩
  obtain rfl : a = b := Except.ok.inj h
  exact ha

theorem careful_modify {g : App → App} (hg : ∀ a : App, a.IsTidy → (g a).IsTidy) :
    Careful view (modify g : Program (StateM Machine) Unit) :=
  fun a _ ha => ⟨hg a ha, rfl, nofun, fun _ _ => trivial⟩

theorem yields_bind (hx : Yields view P x) (hf : ∀ v, P v → Yields view Q (f v)) :
    Yields view Q (x >>= f) := by
  intro a s ha
  obtain ⟨tidy, kept, told, holds⟩ := hx a s ha
  rw [exec_bind]
  unfold Outcome.next
  cases hresult : (x.exec a s).result with
  | error e =>
    refine ⟨tidy, kept, fun e' h => ?_, nofun⟩
    obtain rfl : e = e' := Except.error.inj h
    exact told e hresult
  | ok v =>
    obtain ⟨tidy', kept', told', holds'⟩ := hf v (holds v hresult) _ (x.exec a s).machine tidy
    exact ⟨tidy', kept'.trans kept, told', holds'⟩

theorem yields_tryCatch {h : Failure → Program (StateM Machine) α} (hx : Yields view P x)
    (hh : ∀ e, e.isTold = true → Yields view P (h e)) : Yields view P (tryCatch x h) := by
  intro a s ha
  obtain ⟨tidy, kept, told, holds⟩ := hx a s ha
  rw [exec_tryCatch]
  unfold Outcome.rescue
  cases hresult : (x.exec a s).result with
  | ok v => exact ⟨tidy, kept, told, holds⟩
  | error e =>
    obtain ⟨tidy', kept', told', holds'⟩ := hh e (told e hresult) _ (x.exec a s).machine tidy
    exact ⟨tidy', kept'.trans kept, told', holds'⟩

/-- An action of the machine alone. -/
theorem yields_liftM {y : StateT App (StateM Machine) α}
    (hy : ∀ a s, ((y.run a).run s).1.2 = a ∧ view ((y.run a).run s).2 = view s ∧
      P ((y.run a).run s).1.1) :
    Yields view P (liftM y : Program (StateM Machine) α) := by
  intro a s ha
  obtain ⟨happ, hview, hvalue⟩ := hy a s
  rw [exec_liftM]
  refine ⟨by rwa [happ], hview, nofun, fun v h => ?_⟩
  obtain rfl := Except.ok.inj h
  exact hvalue

theorem careful_liftM {y : StateT App (StateM Machine) α}
    (hy : ∀ a s, ((y.run a).run s).1.2 = a ∧ view ((y.run a).run s).2 = view s) :
    Careful view (liftM y : Program (StateM Machine) α) :=
  yields_liftM fun a s => ⟨(hy a s).1, (hy a s).2, trivial⟩

theorem careful_ofExcept {r : Except Failure α} (hr : Tells r) :
    Careful view (ofExcept r : Program (StateM Machine) α) := by
  cases r with
  | ok v => exact careful_pure v
  | error e => exact yields_throw (hr e rfl)

end Program

/-! What the host does besides writing is not shown. -/

namespace Machine

variable {s : Machine}

theorem shown_openEnd (path : Text) (s : Machine) : (s.openEnd path).2.shown = s.shown := by
  unfold openEnd
  split <;> rfl

theorem file_of_openEnd {path : Text} {s : Machine} {stream : Stream}
    (h : (s.openEnd path).1 = .ok stream) : ∃ n, stream = .file n := by
  unfold openEnd at h
  split at h
  · cases h
  · exact ⟨_, (Except.ok.inj h).symm⟩

theorem shown_makeDirectory (path : Text) (s : Machine) :
    (s.makeDirectory path).2.shown = s.shown := by
  unfold makeDirectory
  split <;> rfl

theorem shown_pass (sink : Sink) (t : Text) (s : Machine) : (s.pass sink t).shown = s.shown := by
  unfold pass
  split
  · rfl
  · split <;> rfl

theorem shown_writeFile (n : Nat) (t : Text) (s : Machine) :
    (s.writeFile n t).2.shown = s.shown := by
  unfold writeFile
  split
  · rfl
  · exact shown_pass _ _ _

theorem shown_closeFile (n : Nat) (s : Machine) : (s.closeFile n).2.shown = s.shown := by
  unfold closeFile
  split
  · rfl
  · exact shown_pass _ _ _

end Machine

namespace Host

open Program

theorem yields_attemptFile {y : StateT App (StateM Machine) (Except FileCause α)} (path : Text)
    (hy : ∀ a s, ((y.run a).run s).1.2 = a ∧ view ((y.run a).run s).2 = view s ∧
      ∀ v, ((y.run a).run s).1.1 = .ok v → P v) :
    Yields view P (attemptFile path y : Program (StateM Machine) α) := by
  refine yields_bind (yields_liftM (P := fun r => ∀ v, r = .ok v → P v) hy) fun r hr => ?_
  cases r with
  | ok v => exact yields_pure (hr v rfl)
  | error cause => exact yields_throw rfl

theorem careful_put (stream : Stream) (t : Text) (hview : ∀ s, view (s.write stream t).2 = view s) :
    Careful view (put stream t : Program (StateM Machine) Unit) := by
  refine yields_bind (careful_liftM fun a s => ⟨rfl, hview s⟩) fun r _ => ?_
  cases r with
  | ok v => exact careful_pure _
  | error cause => exact yields_throw rfl

theorem careful_attemptText (r : Except Utf8.Fault Text) :
    Careful view (attemptText r : Program (StateM Machine) Text) := by
  cases r with
  | ok t => exact careful_pure _
  | error e => exact yields_throw rfl

theorem careful_readText (path : Text) :
    Careful Machine.shown (readText path : Program (StateM Machine) Text) := by
  refine yields_bind (yields_attemptFile path fun _ _ => ⟨rfl, rfl, fun _ _ => trivial⟩) ?_
  exact fun bytes _ => careful_attemptText _

theorem careful_readInput : Careful Machine.shown (readInput : Program (StateM Machine) Text) :=
  yields_bind (careful_liftM fun _ _ => ⟨rfl, rfl⟩) fun _ _ => careful_attemptText _

theorem careful_makeLast (path : Text) :
    Careful Machine.shown (makeLast path : Program (StateM Machine) Unit) := by
  refine yields_bind (careful_liftM fun a s => ⟨rfl, s.shown_makeDirectory path⟩) fun r _ => ?_
  cases r with
  | ok v => exact careful_pure _
  | error cause =>
    refine yields_bind (careful_liftM fun _ _ => ⟨rfl, rfl⟩) fun isThere _ => ?_
    cases isThere with
    | true => exact careful_pure _
    | false => exact yields_throw rfl

theorem careful_makeDirectoriesWithin (fuel : Nat) (path : Text) :
    Careful Machine.shown (makeDirectoriesWithin fuel path : Program (StateM Machine) Unit) := by
  induction fuel generalizing path with
  | zero => exact careful_pure _
  | succ fuel ih =>
    rw [makeDirectoriesWithin]
    generalize (if (Path.lastName path).isEmpty then Path.parent path else path) = trimmed
    split
    · exact careful_makeLast path
    · refine yields_bind (careful_liftM fun _ _ => ⟨rfl, rfl⟩) fun isThere _ => ?_
      split
      · exact careful_makeLast path
      · refine yields_bind (yields_tryCatch (ih _) fun e he => ?_) fun _ _ => ?_
        · split
          · exact yields_throw he
          · exact careful_pure _
        · split
          · exact careful_makeLast path
          · exact careful_pure _

theorem careful_makeWay (path : Text) :
    Careful Machine.shown (makeWay path : Program (StateM Machine) Unit) :=
  careful_makeDirectoriesWithin _ _

end Host

end Collation
