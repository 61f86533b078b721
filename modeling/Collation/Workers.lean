import Collation.Value.Basic
import Collation.Failure.Basic

/-! Mapping over items with one worker or with a pool of several. -/

namespace Collation

/-- How many workers there are, and whether one worker does what a pool has failed to do. -/
structure Workers where
  isSingle : Bool
  retry : Bool
  deriving DecidableEq, Repr

namespace Workers

variable {α β : Type}

/-- An action on a source that gives each of its items once. The state is what the source has left. -/
abbrev Drawing (α : Type) := StateM (List α)

def drain : Drawing α (List α) :=
  modifyGet fun items => (items, [])

/-- The results of items, one after the other up to the first failure, and the items that are left
then. -/
def mapLeft (f : α → Except Failure β) : List α → Except Failure (List β) × List α
  | [] => (.ok [], [])
  | item :: left =>
    match f item with
    | .error e => (.error e, left)
    | .ok v =>
      let (results, left) := mapLeft f left
      (results.map (v :: ·), left)

theorem mapLeft_fst (f : α → Except Failure β) (items : List α) :
    (mapLeft f items).1 = items.mapM f := by
  induction items with
  | nil => rfl
  | cons item items ih =>
    rw [mapLeft, List.mapM_cons, ← ih]
    cases f item with
    | error e => rfl
    | ok v => cases h : (mapLeft f items).1 <;> simp only [h] <;> rfl

/-- The results of items that were kept, in their order, and whether a notice of a failed pool is due.
One worker goes through the items if the pool has failed, unless its failure is one that ends a run.
Fewer than two items need no pool. -/
def mapKept (w : Workers) (pool : List α → Except Failure (List β)) (f : α → Except Failure β)
    (items : List α) : Except Failure (List β) × Bool :=
  if items.length < 2 then (items.mapM f, false)
  else match pool items with
    | .ok results => (.ok results, false)
    | .error e => if w.retry && e.isOrdinary then (items.mapM f, true) else (.error e, false)

/-- A single worker takes no more from the source than it can map. -/
def starmap (w : Workers) (pool : List α → Except Failure (List β)) (f : α → Except Failure β) :
    Drawing α (Except Failure (List β) × Bool) := do
  if w.isSingle then return (← modifyGet (mapLeft f), false)
  else return w.mapKept pool f (← drain)

def map (w : Workers) (pool : List α → Except Failure (List β)) (f : α → Except Failure β)
    (items : List α) : Except Failure (List β) × Bool :=
  ((w.starmap pool f).run items).1

/-- What is left of the source makes no difference to the results. -/
theorem map_eq (w : Workers) (pool : List α → Except Failure (List β)) (f : α → Except Failure β)
    (items : List α) :
    w.map pool f items =
      if w.isSingle then (items.mapM f, false) else w.mapKept pool f items := by
  rw [map, starmap, ← mapLeft_fst]
  split <;> rfl

def notice : Text := "Parallel operation failed. Trying with a single process...\n"

/-- Items of several columns side by side, up to the end of the shortest one. -/
def rows (columns : List (List α)) : List (List α) :=
  match columns with
  | [] => []
  | _ =>
    let height := (columns.map List.length).min?.getD 0
    (List.range height).map fun i => columns.filterMap (·[i]?)

end Workers

/-- A pool of processes: why it cannot start, if so, and whether its work can be sent to it. -/
structure Pool where
  start : Except Failure Unit
  isSendable : Bool
  /-- Items that are sent at a time. With none or fewer, nothing is sent and nothing comes back. -/
  chunk : Option Int

namespace Pool

def run {α : Type} (p : Pool) (f : α → Except Failure Value) (items : List α) :
    Except Failure (List Value) := do
  p.start
  if p.chunk.any (· ≤ 0) then return items.map fun _ => .none
  else if !p.isSendable then throw .type
  else items.mapM f

def startOf : Value → Except Failure Unit
  | .int n => if n < 1 then .error .noWorkers else .ok ()
  | .bool b => if b then .ok () else .error .noWorkers
  | .float x => if x < 1 then .error .noWorkers else .error .type
  | _ => .error .type

end Pool

/-- One process works alone. No number means as many processes as the machine can run at once. -/
def Workers.isSingleCount (v : Value) : Bool :=
  v.same (.int 1)

def Pool.isMachineCount (v : Value) : Bool :=
  !v.isTruthy

def Pool.startFor (v : Value) : Except Failure Unit :=
  if isMachineCount v then .ok () else startOf v

end Collation
