import Collation.Proofs.Run.Careful
import Collation.Proofs.Run.Stream

/-! The log of a run. A line goes to all streams of the logger, and a message of a failure is written
out in full, since it is the repeat of no notice. -/

namespace Collation

variable {l : Logger} {a : App} {s : Machine} {line message last : Text} {ns : List Nat}

namespace Machine

/-- A machine after a line is offered to streams. -/
def tell (line : Text) (streams : List Stream) (s : Machine) : Machine :=
  streams.foldl (fun s stream => (s.write stream line).2) s

variable {α : Type} {f : α → Machine → Except StreamCause Unit × Machine} {xs : List α}

/-- What is done for one item after the other, up to the first that does not go well. -/
def upTo (f : α → Machine → Except StreamCause Unit × Machine) :
    List α → Machine → Except StreamCause Unit × Machine
  | [], s => (.ok (), s)
  | x :: xs, s =>
    match (f x s).1 with
    | .ok _ => upTo f xs (f x s).2
    | .error cause => (.error cause, (f x s).2)

/-- What each step keeps is kept up to the end. -/
theorem upTo_induction {P : Machine → Prop} (hf : ∀ x ∈ xs, ∀ s, P s → P (f x s).2) (hs : P s) :
    P (upTo f xs s).2 := by
  induction xs generalizing s with
  | nil => exact hs
  | cons x xs ih =>
    obtain ⟨hx, hxs⟩ := List.forall_mem_cons.mp hf
    rw [upTo]
    split
    · exact ih hxs (hx s hs)
    · exact hx s hs

/-- If every step goes well wherever it starts, all do. -/
theorem upTo_of_ok {P : Machine → Prop} (hok : ∀ x ∈ xs, ∀ s, P s → (f x s).1 = .ok ())
    (hf : ∀ x ∈ xs, ∀ s, P s → P (f x s).2) (hs : P s) : (upTo f xs s).1 = .ok () := by
  induction xs generalizing s with
  | nil => rfl
  | cons x xs ih =>
    obtain ⟨hx, hxs⟩ := List.forall_mem_cons.mp hf
    obtain ⟨hxok, hxsok⟩ := List.forall_mem_cons.mp hok
    rw [upTo, hxok s hs]
    exact ih hxsok hxs (hx s hs)

theorem shown_tell_files (line : Text) (ns : List Nat) (s : Machine) :
    (s.tell line (ns.map Stream.file)).shown = s.shown := by
  induction ns generalizing s with
  | nil => rfl
  | cons n ns ih => exact (ih _).trans (s.shown_writeFile n line)

/-- A line that is offered to files and to the messages is shown once. -/
theorem shown_tell (line : Text) (ns : List Nat) (s : Machine) :
    (s.tell line (ns.map Stream.file ++ [.messages])).shown =
      (s.out, s.err.write line, s.stampText) := by
  have hfiles := s.shown_tell_files line ns
  obtain ⟨houtput, hrest⟩ := Prod.mk.inj hfiles
  obtain ⟨hmessages, hstamp⟩ := Prod.mk.inj hrest
  rw [tell, List.foldl_append]
  exact Prod.ext houtput (Prod.ext (congrArg (·.write line) hmessages) hstamp)

theorem shown_closeFiles (ns : List Nat) (s : Machine) :
    (upTo close (ns.map Stream.file) s).2.shown = s.shown := by
  refine upTo_induction (P := fun t => t.shown = s.shown) ?_ rfl
  intro stream hstream t ht
  obtain ⟨n, -, rfl⟩ := List.mem_map.mp hstream
  exact (t.shown_closeFile n).trans ht

end Machine

theorem Logger.IsTidy.results_tell (hl : l.IsTidy) (line : Text) (s : Machine) :
    (s.tell line l.streams).results = s.results := by
  obtain ⟨ns, hns⟩ := hl.streams
  rw [hns]
  exact Machine.results_of_shown (s.shown_tell line ns)

/-! A failure of a stream does not keep a line from the streams after it, on whatever host. -/

section Host

variable {m : Type → Type} [Monad m] [LawfulMonad m]

theorem Host.run_attemptStream (x : m (Except StreamCause Unit)) :
    (attemptStream x).run = (·.mapError Failure.stream) <$> x := by
  have hlift : (liftM x : Attempt m (Except StreamCause Unit)).run = Except.ok <$> x := rfl
  rw [attemptStream, ExceptT.run_bind, hlift, bind_map_left, map_eq_pure_bind]
  refine congrArg _ (funext fun r => ?_)
  cases r <;> rfl

variable [Host m]

theorem Logger.passesOver_stream (cause : StreamCause) : passesOver (.stream cause) = true := by
  cases cause with
  | system code reason =>
    rw [passesOver, Bool.or_eq_true]
    exact Or.inl (Family.isA_ofSystemCode code)
  | closed | encoding message => rfl

/-- Writes a line to streams, whatever becomes of it. -/
def Logger.writeAll (line : Text) : List Stream → m Unit
  | [] => return
  | stream :: rest => do
    let _ ← Host.write stream line
    writeAll line rest

theorem Logger.run_offer (line : Text) (streams : List Stream) :
    (offer line streams : Attempt m Unit).run = Except.ok <$> writeAll line streams := by
  induction streams with
  | nil => exact (map_pure _ _).symm
  | cons stream streams ih =>
    rw [offer, writeAll, ExceptT.run_bind, ExceptT.run_tryCatch, Host.put, Host.run_attemptStream,
      bind_assoc, bind_map_left, map_bind]
    refine congrArg _ (funext fun r => ?_)
    cases r with
    | ok v => simp [mapError_ok, ih]
    | error cause => simp [mapError_error, passesOver_stream, ih]

end Host

namespace Logger

theorem shorten_of_ne (mark : Option Text) (h : message ≠ last) :
    (shorten mark last message).1 = message := by
  cases mark with
  | none => rfl
  | some mark => rw [shorten, if_neg h]

theorem shorten_last (mark : Option Text) (last message : Text) :
    (shorten mark last message).2 = last ∨ (shorten mark last message).2 = message := by
  cases mark with
  | none => exact Or.inl rfl
  | some mark =>
    rw [shorten]
    split
    · exact Or.inl rfl
    · exact Or.inr rfl

theorem IsTidy.log (hl : l.IsTidy) (hmessage : IsNotice message) :
    { l with last := (shorten l.repeatMark l.last message).2 }.IsTidy := by
  refine ⟨hl.streams, hl.owned, hl.stamp, ?_⟩
  rcases shorten_last l.repeatMark l.last message with h | h
  · rw [h]
    exact hl.last
  · rw [h]
    exact Or.inr hmessage

end Logger

namespace Program

variable {b : App} {t : Machine} {e : Failure}

theorem exec_put (stream : Stream) (line : Text) (a : App) (s : Machine) :
    exec (Host.put stream line) a s =
      ⟨(s.write stream line).1.mapError .stream, a, (s.write stream line).2⟩ := by
  rw [exec, Host.put, Host.run_attemptStream]
  rfl

theorem exec_shut (stream : Stream) (a : App) (s : Machine) :
    exec (Host.shut stream) a s =
      ⟨(s.close stream).1.mapError .stream, a, (s.close stream).2⟩ := by
  rw [exec, Host.shut, Host.run_attemptStream]
  rfl

theorem run_writeAll (line : Text) (streams : List Stream) (a : App) (s : Machine) :
    ((Logger.writeAll line streams : StateT App (StateM Machine) Unit).run a).run s =
      (((), a), s.tell line streams) := by
  induction streams generalizing s with
  | nil => rfl
  | cons stream streams ih => exact ih _

theorem exec_offer (line : Text) (streams : List Stream) (a : App) (s : Machine) :
    exec (Logger.offer line streams) a s = ⟨.ok (), a, s.tell line streams⟩ := by
  rw [exec, Logger.run_offer, StateT.run_map, StateT.run_map, run_writeAll]
  rfl

/-- A loop over steps of the machine ends where the first of them fails. -/
theorem exec_forM {α : Type} {g : α → Program (StateM Machine) PUnit}
    {f : α → Machine → Except StreamCause Unit × Machine}
    (hg : ∀ x a s, (g x).exec a s = ⟨(f x s).1.mapError .stream, a, (f x s).2⟩) (xs : List α)
    (a : App) (s : Machine) :
    exec (xs.forM g) a s =
      ⟨(Machine.upTo f xs s).1.mapError .stream, a, (Machine.upTo f xs s).2⟩ := by
  induction xs generalizing s with
  | nil => rfl
  | cons x xs ih =>
    have hcons : (x :: xs).forM g = g x >>= fun _ => xs.forM g := rfl
    rw [hcons, exec_bind, hg, Machine.upTo]
    cases (f x s).1 with
    | ok v => exact ih (f x s).2
    | error cause => rfl

theorem exec_logWith (hl : l.stamp = .time) (message : Text) (a : App) (s : Machine) :
    exec (l.log message) a s =
      ⟨.ok { l with last := (Logger.shorten l.repeatMark l.last message).2 }, a,
        s.tell (s.stampText ++ (Logger.shorten l.repeatMark l.last message).1 ++ ['\n'])
          l.streams⟩ := by
  have hstamp : exec (Logger.stampText .time) a s = ⟨.ok s.stampText, a, s⟩ := rfl
  unfold Logger.log
  rw [hl, exec_bind_of_ok hstamp, exec_bind_of_ok (exec_offer _ _ a s)]
  rfl

/-- A message is told to all streams of the logger, which is opened for it if need be. -/
theorem exec_log (h : logger.exec a s = ⟨.ok l, b, t⟩) (hl : l.stamp = .time) (message : Text) :
    let shortened := Logger.shorten l.repeatMark l.last message
    (log message).exec a s = ⟨.ok (), { b with logger := some { l with last := shortened.2 } },
      t.tell (t.stampText ++ shortened.1 ++ ['\n']) l.streams⟩ := by
  unfold log
  rw [exec_bind_of_ok h, exec_bind_of_ok (exec_logWith hl message b t)]
  rfl

end Program

end Collation
