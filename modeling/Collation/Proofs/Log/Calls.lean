import Collation.Proofs.Log.Standing

/-! What is done with a logger in the course of a run, on streams that fail. Whoever uses the logger
goes on with it after a failure. -/

namespace Collation.Logger

/-- What is done with a logger, and what the clock shows from then on. -/
inductive Call where
  | clock (now : Text)
  | log (message : Text)
  | close
  deriving DecidableEq, Repr

def Call.message? : Call → Option Text
  | log message => some message
  | _ => none

/-- Whether an action on a logger fails, and the logger after it. -/
def settled (l : Logger) (x : Attempt (StateM Machine) Logger) :
    StateM Machine (Except Failure Unit × Logger) := do
  match ← x.run with
  | .ok l' => return (.ok (), l')
  | .error e => return (.error e, l)

def Call.run (l : Logger) : Call → StateM Machine (Except Failure Unit × Logger)
  | .clock now => do
    modify fun s => { s with stampText := now }
    return (.ok (), l)
  | .log message => l.settled (l.log message)
  | .close => l.settled l.close

/-- What the calls of a run come to, one after the other. -/
def runCalls (l : Logger) : List Call → StateM Machine (List (Except Failure Unit) × Logger)
  | [] => return ([], l)
  | c :: calls => do
    let (answer, l) ← c.run l
    let (answers, l) ← runCalls l calls
    return (answer :: answers, l)

/-- What stands before a message, if anything can. -/
def stampAt? (l : Logger) (now : Text) : Option Text :=
  match l.stamp with
  | .none => some []
  | .time => some now
  | .fixed t => some t
  | .invalid => none

def lineAt? (l : Logger) (now message : Text) : Option Text :=
  (l.stampAt? now).map (· ++ (shorten l.repeatMark l.last message).1 ++ ['\n'])

/-- The logger to which a message was told. One that can tell nothing stays as it was. -/
def told (l : Logger) (message : Text) : Logger :=
  if l.stamp = .invalid then l
  else { l with last := (shorten l.repeatMark l.last message).2 }

def Call.answer (l : Logger) (s : Machine) : Call → Except Failure Unit
  | .clock _ => .ok ()
  | .log _ => if l.stamp = .invalid then .error .nullFormat else .ok ()
  | .close => (Machine.upTo Machine.close l.owned s).1.mapError .stream

/-- The logger after a call. It keeps its streams if it does not close well. -/
def Call.next (l : Logger) (s : Machine) : Call → Logger
  | .clock _ => l
  | .log message => l.told message
  | .close =>
    match (Machine.upTo Machine.close l.owned s).1 with
    | .ok _ => { l with owned := [] }
    | .error _ => l

/-- What a call does to the machine. -/
def Call.act (l : Logger) (s : Machine) : Call → Machine
  | .clock now => { s with stampText := now }
  | .log message =>
    match l.lineAt? s.stampText message with
    | some line => s.tell line l.streams
    | none => s
  | .close => (Machine.upTo Machine.close l.owned s).2

theorem stampAt?_eq_none {l : Logger} {now : Text} :
    l.stampAt? now = none ↔ l.stamp = .invalid := by
  unfold stampAt?
  cases l.stamp <;> simp

theorem Call.act_log_of_some {l : Logger} {s : Machine} {message line : Text}
    (h : l.lineAt? s.stampText message = some line) :
    (Call.log message).act l s = s.tell line l.streams := by
  rw [act, h]

theorem Call.act_log_of_none {l : Logger} {s : Machine} {message : Text}
    (h : l.lineAt? s.stampText message = none) : (Call.log message).act l s = s := by
  rw [act, h]

theorem run_writeAll (line : Text) (streams : List Stream) (s : Machine) :
    (writeAll line streams : StateM Machine Unit).run s = ((), s.tell line streams) := by
  induction streams generalizing s with
  | nil => rfl
  | cons stream streams ih => exact ih _

theorem run_forM_shut (streams : List Stream) (s : Machine) :
    (streams.forM Host.shut : Attempt (StateM Machine) PUnit).run.run s =
      ((Machine.upTo Machine.close streams s).1.mapError .stream,
        (Machine.upTo Machine.close streams s).2) := by
  induction streams generalizing s with
  | nil => rfl
  | cons stream streams ih =>
    have hshut : (Host.shut stream : Attempt (StateM Machine) Unit).run.run s =
        ((s.close stream).1.mapError .stream, (s.close stream).2) := by
      rw [Host.shut, Host.run_attemptStream]
      rfl
    have hcons : ((stream :: streams).forM Host.shut : Attempt (StateM Machine) PUnit) =
      Host.shut stream >>= fun _ => streams.forM Host.shut := rfl
    rw [hcons, ExceptT.run_bind, StateT.run_bind, hshut, Machine.upTo]
    cases (s.close stream).1 with
    | ok v => exact ih (s.close stream).2
    | error cause => rfl

theorem run_log (l : Logger) (message : Text) (s : Machine) :
    (l.log message : Attempt (StateM Machine) Logger).run.run s =
      match l.lineAt? s.stampText message with
      | some line => (.ok (l.told message), s.tell line l.streams)
      | none => (.error .nullFormat, s) := by
  obtain ⟨streams, owned, stamp, mark, last⟩ := l
  have htold : ∀ t : Text, (offer (t ++ (shorten mark last message).1 ++ ['\n']) streams
      : Attempt (StateM Machine) Unit).run.run s =
        (.ok (), s.tell (t ++ (shorten mark last message).1 ++ ['\n']) streams) := by
    intro t
    rw [run_offer, StateT.run_map, run_writeAll]
    rfl
  have hrest : ∀ t : Text, (do
      offer (t ++ (shorten mark last message).1 ++ ['\n']) streams
      return ⟨streams, owned, stamp, mark, (shorten mark last message).2⟩
        : Attempt (StateM Machine) Logger).run.run s =
      (.ok ⟨streams, owned, stamp, mark, (shorten mark last message).2⟩,
        s.tell (t ++ (shorten mark last message).1 ++ ['\n']) streams) := by
    intro t
    rw [ExceptT.run_bind, StateT.run_bind, htold]
    rfl
  cases stamp with
  | none => exact hrest []
  | time => exact hrest s.stampText
  | fixed t => exact hrest t
  | invalid => rfl

theorem Call.run_eq (c : Call) (l : Logger) (s : Machine) :
    (c.run l).run s = ((c.answer l s, c.next l s), c.act l s) := by
  cases c with
  | clock now => rfl
  | log message =>
    change (l.settled (l.log message)).run s = _
    rw [settled, StateT.run_bind, run_log, answer, act, lineAt?, next]
    cases hstamp : l.stampAt? s.stampText with
    | none =>
      rw [if_pos (stampAt?_eq_none.mp hstamp), told, if_pos (stampAt?_eq_none.mp hstamp)]
      rfl
    | some t =>
      have hvalid : l.stamp ≠ .invalid := fun h => by
        rw [stampAt?_eq_none.mpr h] at hstamp
        cases hstamp
      rw [if_neg hvalid]
      rfl
  | close =>
    have hclose : (l.close : Attempt (StateM Machine) Logger).run.run s =
        ((Machine.upTo Machine.close l.owned s).1.mapError Failure.stream >>= fun _ =>
          .ok { l with owned := [] }, (Machine.upTo Machine.close l.owned s).2) := by
      rw [Logger.close, ExceptT.run_bind, StateT.run_bind, run_forM_shut]
      cases (Machine.upTo Machine.close l.owned s).1 <;> rfl
    change (l.settled l.close).run s = _
    rw [settled, StateT.run_bind, hclose, answer, next, act]
    cases (Machine.upTo Machine.close l.owned s).1 <;> rfl

theorem runCalls_cons (c : Call) (calls : List Call) (l : Logger) (s : Machine) :
    (l.runCalls (c :: calls)).run s =
      let rest := ((c.next l s).runCalls calls).run (c.act l s)
      ((c.answer l s :: rest.1.1, rest.1.2), rest.2) := by
  rw [runCalls, StateT.run_bind, c.run_eq]
  rfl

end Collation.Logger
