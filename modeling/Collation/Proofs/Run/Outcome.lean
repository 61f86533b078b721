import Collation.Command
import Collation.Host.Machine

/-! Runs on a machine that is a value. The outcome of an action is put together from those of its
parts. -/

namespace Collation

/-- What an action comes to, with the application and the machine that it leaves behind. -/
structure Outcome (α : Type) where
  result : Except Failure α
  app : App
  machine : Machine

namespace Outcome

variable {α β : Type}

/-- Goes on from a result, unless there is a failure. -/
def next (o : Outcome α) (f : α → App → Machine → Outcome β) : Outcome β :=
  match o.result with
  | .ok v => f v o.app o.machine
  | .error e => ⟨.error e, o.app, o.machine⟩

/-- Goes on from a failure, with what was done before it. -/
def rescue (o : Outcome α) (f : Failure → App → Machine → Outcome α) : Outcome α :=
  match o.result with
  | .ok _ => o
  | .error e => f e o.app o.machine

theorem machine_next_ok (o : Outcome α) (v : β) :
    (o.next fun _ b t => ⟨.ok v, b, t⟩).machine = o.machine := by
  rcases o with ⟨_ | _, b, t⟩ <;> rfl

theorem app_next_ok (o : Outcome α) (v : β) : (o.next fun _ b t => ⟨.ok v, b, t⟩).app = o.app := by
  rcases o with ⟨_ | _, b, t⟩ <;> rfl

theorem eq_of_result {o : Outcome α} {r : Except Failure α} (h : o.result = r) :
    o = ⟨r, o.app, o.machine⟩ := by
  rw [← h]

end Outcome

namespace Program

variable {α β : Type} {x : Program (StateM Machine) α} {f : α → Program (StateM Machine) β}
  {a b : App} {s t : Machine} {v : α} {e : Failure}

def exec (x : Program (StateM Machine) α) (a : App) (s : Machine) : Outcome α :=
  let o := (x.run.run a).run s
  ⟨o.1.1, o.1.2, o.2⟩

theorem exec_throw (e : Failure) (a : App) (s : Machine) :
    (throw e : Program (StateM Machine) α).exec a s = ⟨.error e, a, s⟩ := rfl

theorem exec_get (a : App) (s : Machine) :
    (get : Program (StateM Machine) App).exec a s = ⟨.ok a, a, s⟩ := rfl

theorem exec_modify (g : App → App) (a : App) (s : Machine) :
    (modify g : Program (StateM Machine) Unit).exec a s = ⟨.ok (), g a, s⟩ := rfl

theorem exec_liftM (y : StateT App (StateM Machine) α) (a : App) (s : Machine) :
    (liftM y : Program (StateM Machine) α).exec a s =
      ⟨.ok ((y.run a).run s).1.1, ((y.run a).run s).1.2, ((y.run a).run s).2⟩ := rfl

theorem exec_bind (x : Program (StateM Machine) α) (f : α → Program (StateM Machine) β) (a : App)
    (s : Machine) : (x >>= f).exec a s = (x.exec a s).next fun v => (f v).exec := by
  rw [exec, ExceptT.run_bind, StateT.run_bind, StateT.run_bind, exec]
  rcases (x.run.run a).run s with ⟨⟨_ | v, b⟩, t⟩ <;> rfl

theorem exec_tryCatch (x : Program (StateM Machine) α) (h : Failure → Program (StateM Machine) α)
    (a : App) (s : Machine) :
    (tryCatch x h).exec a s = (x.exec a s).rescue fun e => (h e).exec := by
  rw [exec, ExceptT.run_tryCatch, StateT.run_bind, StateT.run_bind, exec]
  rcases (x.run.run a).run s with ⟨⟨_ | v, b⟩, t⟩ <;> rfl

theorem exec_bind_of_ok (h : x.exec a s = ⟨.ok v, b, t⟩) : (x >>= f).exec a s = (f v).exec b t := by
  rw [exec_bind, h]
  rfl

theorem exec_bind_of_error (h : x.exec a s = ⟨.error e, b, t⟩) :
    (x >>= f).exec a s = ⟨.error e, b, t⟩ := by
  rw [exec_bind, h]
  rfl

/-- What comes to an end after an action comes after a result of it. -/
theorem exec_bind_eq_ok {w : β} (h : (x >>= f).exec a s = ⟨.ok w, b, t⟩) :
    ∃ v a' s', x.exec a s = ⟨.ok v, a', s'⟩ ∧ (f v).exec a' s' = ⟨.ok w, b, t⟩ := by
  rw [exec_bind] at h
  rcases hx : x.exec a s with ⟨e | v, a', s'⟩
  · rw [hx] at h
    cases h
  · rw [hx] at h
    exact ⟨v, a', s', rfl, h⟩

theorem exec_tryCatch_of_error {h : Failure → Program (StateM Machine) α}
    (hx : x.exec a s = ⟨.error e, b, t⟩) : (tryCatch x h).exec a s = (h e).exec b t := by
  rw [exec_tryCatch, hx]
  rfl

end Program

end Collation
