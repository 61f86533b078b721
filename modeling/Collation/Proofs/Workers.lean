import Collation.Proofs.Result
import Collation.Proofs.Sort
import Collation.Value.Function

/-! Mapping with a pool of workers. A pool that fails makes no difference to a mapping that retries but
for a notice, unless it is interrupted. Sorting does not depend on the workers that make its keys. -/

namespace Collation

namespace Workers

variable {α β : Type} {columns : List (List α)} {f : α → Except Failure β} {items row : List α}
  {pool : List α → Except Failure (List β)} {r : Except Failure (List β)} {e : Failure}

/-- What one worker comes to, who goes through the items in order: the results of all of them, or
the failure of the first one that fails. -/
def Serial (f : α → Except Failure β) (items : List α) : Except Failure (List β) → Prop
  | .ok results => items.map f = results.map .ok
  | .error e => ∃ before item after, items = before ++ item :: after ∧
      (∀ x ∈ before, ∃ v, f x = .ok v) ∧ f item = .error e

/-- How many processes a setting asks for on a machine that runs `cores` of them at once. -/
def countOn (cores : Nat) (processes : Value) : Value :=
  if Pool.isMachineCount processes then .int cores else processes

def ofSetting (cores : Nat) (processes : Value) (retry : Bool) : Workers :=
  ⟨isSingleCount (countOn cores processes), retry⟩

/-- There is something for a pool to do, and it raises a failure. -/
def PoolFails (w : Workers) (pool : List α → Except Failure (List β)) (items : List α)
    (e : Failure) : Prop :=
  w.isSingle = false ∧ 2 ≤ items.length ∧ pool items = .error e

/-- A pool that raises no failure returns the results of the items, in their order. -/
def KeepsOrder (pool : List α → Except Failure (List β)) (f : α → Except Failure β)
    (items : List α) : Prop :=
  ∀ results, pool items = .ok results → items.map f = results.map .ok

theorem mapM_eq_iff : items.mapM f = r ↔ Serial f items r := by
  cases r with
  | ok results => exact mapM_eq_ok_iff
  | error e =>
    constructor
    · intro h
      obtain ⟨before, item, after, results, rfl, hbefore, hitem⟩ := mapM_eq_error h
      refine ⟨before, item, after, rfl, fun x hx => ?_, hitem⟩
      have hmem : f x ∈ results.map Except.ok :=
        mapM_eq_ok_iff.mp hbefore ▸ List.mem_map_of_mem hx
      obtain ⟨v, -, hv⟩ := List.mem_map.mp hmem
      exact ⟨v, hv.symm⟩
    · rintro ⟨before, item, after, rfl, hbefore, hitem⟩
      exact mapM_append_error hbefore hitem after

/-! Items of columns side by side. -/

theorem map_eq_map_some_iff {xs : List (List α)} {i : Nat} :
    xs.map (·[i]?) = row.map some ↔
      (∀ c ∈ xs, i < c.length) ∧ xs.filterMap (·[i]?) = row := by
  induction xs generalizing row with
  | nil => cases row <;> simp
  | cons c xs ih =>
    by_cases hc : i < c.length
    · cases row with
      | nil => simp [hc]
      | cons v row => simp [hc, ih, and_left_comm]
    · cases row with
      | nil => simp [hc]
      | cons v row => simp [hc]

/-- The number of rows is the length of the shortest column. -/
theorem lt_height_iff (hne : columns ≠ []) (i : Nat) :
    i < (columns.map List.length).min?.getD 0 ↔ ∀ c ∈ columns, i < c.length := by
  have hlengths : columns.map List.length ≠ [] := mt List.map_eq_nil_iff.mp hne
  obtain ⟨height, hheight⟩ := Option.isSome_iff_exists.mp (List.isSome_min?_of_ne_nil hlengths)
  have hle : i + 1 ≤ height ↔ ∀ n ∈ columns.map List.length, i + 1 ≤ n :=
    List.le_min?_iff hheight
  rw [hheight, Option.getD_some, Nat.lt_iff_add_one_le, hle, List.forall_mem_map]
  rfl

/-- A row has one item of each column, all at the place of the row. -/
theorem getElem?_rows (columns : List (List α)) (i : Nat) (row : List α) :
    (rows columns)[i]? = some row ↔ columns ≠ [] ∧ columns.map (·[i]?) = row.map some := by
  by_cases hne : columns = []
  · simp [hne, rows]
  have hrows : rows columns = (List.range ((columns.map List.length).min?.getD 0)).map
      fun i => columns.filterMap (·[i]?) := by
    cases columns with
    | nil => contradiction
    | cons c columns => rfl
  rw [hrows, List.getElem?_map, map_eq_map_some_iff, ← lt_height_iff hne]
  by_cases hi : i < (columns.map List.length).min?.getD 0
  · simp [hne, hi]
  · simp [hi]

/-! Mapping with a pool. -/

/-- The items are kept for the work to be done again. The source that they came from has none left. -/
theorem run_starmap_of_poolFails {w : Workers} (h : w.PoolFails pool items e) :
    (w.starmap pool f).run items =
      (if w.retry && e.isOrdinary then (items.mapM f, true) else (.error e, false), []) := by
  obtain ⟨hsingle, hlength, hpool⟩ := h
  have hkept : w.mapKept pool f items =
      if w.retry && e.isOrdinary then (items.mapM f, true) else (.error e, false) := by
    rw [mapKept, if_neg (Nat.not_lt.mpr hlength), hpool]
  rw [starmap, hsingle, ← hkept]
  rfl

theorem map_of_poolFails {w : Workers} (h : w.PoolFails pool items e) : w.map pool f items =
    if w.retry && e.isOrdinary then (items.mapM f, true) else (.error e, false) :=
  congrArg Prod.fst (run_starmap_of_poolFails h)

/-- With a pool that keeps the order, nothing but its failures can be told from one worker. -/
theorem map_of_not_poolFails {w : Workers} (hpool : KeepsOrder pool f items)
    (h : ∀ e, ¬w.PoolFails pool items e) : w.map pool f items = (items.mapM f, false) := by
  rw [map_eq]
  split
  · rfl
  · next hsingle =>
    unfold mapKept
    split
    · rfl
    · next hlength =>
      cases hrun : pool items with
      | ok results => exact congrArg (·, false) (mapM_eq_ok_iff.mpr (hpool results hrun)).symm
      | error e =>
        exact absurd ⟨Bool.eq_false_iff.mpr hsingle, Nat.not_lt.mp hlength, hrun⟩ (h e)

/-- No pool can fail in two ways. -/
theorem PoolFails.eq {w : Workers} {e' : Failure} (h : w.PoolFails pool items e)
    (h' : w.PoolFails pool items e') : e = e' :=
  Except.error.inj (h.2.2.symm.trans h'.2.2)

theorem map_retrying {w : Workers} (hretry : w.retry = true) (hpool : KeepsOrder pool f items) :
    ((∀ e, w.PoolFails pool items e → e.isOrdinary = true) →
      (w.map pool f items).1 = items.mapM f) ∧
    ((w.map pool f items).2 = true ↔ ∃ e, w.PoolFails pool items e ∧ e.isOrdinary = true) := by
  by_cases h : ∃ e, w.PoolFails pool items e
  · obtain ⟨e, he⟩ := h
    rw [map_of_poolFails he, hretry, Bool.true_and]
    refine ⟨fun hordinary => by rw [if_pos (hordinary e he)], ?_, ?_⟩
    · intro hnotice
      by_cases hordinary : e.isOrdinary = true
      · exact ⟨e, he, hordinary⟩
      · rw [if_neg hordinary] at hnotice
        contradiction
    · rintro ⟨e', he', hordinary⟩
      obtain rfl := he.eq he'
      rw [if_pos hordinary]
  · rw [map_of_not_poolFails hpool (not_exists.mp h)]
    exact ⟨fun _ => rfl, fun hnotice => absurd hnotice Bool.false_ne_true,
      fun ⟨e, he, _⟩ => absurd ⟨e, he⟩ h⟩

/-- Workers that retry sort as one does, unless the pool that makes the keys is interrupted. -/
theorem sortBy_retrying {w : Workers} (hretry : w.retry = true) {t : Tailoring} {s : Strength}
    {ws : List Word} {pool : List Word → Except Failure (List Key)}
    (hpool : ∀ keys, pool ws = .ok keys → keys = ws.map (t.key s))
    (hordinary : ∀ e, pool ws = .error e → e.isOrdinary = true) :
    (t.sortBy w pool s ws).1 = .ok (t.sort s ws) := by
  have hkeeps : KeepsOrder pool (fun x => .ok (t.key s x)) ws := by
    intro keys hkeys
    rw [hpool keys hkeys, List.map_map]
    rfl
  have hserial : ws.mapM (fun x => (Except.ok (t.key s x) : Except Failure Key)) =
      .ok (ws.map (t.key s)) := List.mapM_pure
  unfold Tailoring.sortBy Tailoring.keysBy
  dsimp only
  rw [(map_retrying hretry hkeeps).1 fun e he => hordinary e he.2.2, hserial]
  rfl

/-- A pool of the kind that workers use keeps the order, unless it sends no items at a time. -/
theorem keepsOrder_run {p : Pool} (hchunk : p.chunk.any (· ≤ 0) = false)
    (f : α → Except Failure Value) (items : List α) : KeepsOrder (p.run f) f items := by
  intro results h
  obtain ⟨-, -, h⟩ := bind_eq_ok h
  rw [if_neg (by simp [hchunk])] at h
  split at h
  · cases h
  · exact mapM_eq_ok_iff.mp h

/-- With retries, mapping the rows of columns comes to what one worker makes of them, unless the pool
is interrupted, and a notice tells just of a pool that has failed otherwise, which there is only for
more than one process and at least two rows. By then the rows have been taken from their source. An
interrupt is let out with and without retries, and without them every failure of the pool is let out
in place of the results, and nothing else differs. So words are sorted in the same way for every
number of processes, with any pool that keeps the order and is not interrupted, however many items it
sends at a time. -/
theorem map_agrees_with_serial (cores : Nat) (processes : Value) {f : List α → Except Failure β}
    {pool : List (List α) → Except Failure (List β)} (hpool : KeepsOrder pool f (rows columns)) :
    let items := rows columns
    let retrying := ofSetting cores processes true
    let once := ofSetting cores processes false
    (∀ (i : Nat) (row : List α),
      items[i]? = some row ↔ columns ≠ [] ∧ columns.map (·[i]?) = row.map some) ∧
    ((∀ e, retrying.PoolFails pool items e → e.isOrdinary = true) →
      ∀ r, (retrying.map pool f items).1 = r ↔ Serial f items r) ∧
    ((retrying.map pool f items).2 = true ↔
      ∃ e, retrying.PoolFails pool items e ∧ e.isOrdinary = true) ∧
    (∀ e, retrying.PoolFails pool items e → ((retrying.starmap pool f).run items).2 = [] ∧
      (e.isOrdinary = false → retrying.map pool f items = (.error e, false))) ∧
    (∀ e, once.PoolFails pool items e → once.map pool f items = (.error e, false)) ∧
    ((∀ e, ¬once.PoolFails pool items e) →
      once.map pool f items = retrying.map pool f items) ∧
    (∀ (t : Tailoring) (s : Strength) (ws : List Word)
      (keys : List Word → Except Failure (List Key)),
      (∀ ks, keys ws = .ok ks → ks = ws.map (t.key s)) →
      (∀ e, keys ws = .error e → e.isOrdinary = true) →
        (t.sortBy retrying keys s ws).1 = .ok (t.sort s ws)) ∧
    ∀ (c : Collator) (ws : List Word),
      ({ c with processes := processes }.sort ws).1 = (c.sort ws).1 := by
  intro items retrying once
  obtain ⟨hresult, hnotice⟩ := map_retrying (w := retrying) rfl hpool
  refine ⟨getElem?_rows columns, fun hordinary r => ?_, hnotice, fun e he => ⟨?_, fun he' => ?_⟩,
    fun e he => ?_, fun h => ?_, fun t s ws keys hkeys => sortBy_retrying rfl hkeys,
    fun c ws => ?_⟩
  · rw [hresult hordinary]
    exact mapM_eq_iff
  · rw [run_starmap_of_poolFails he]
  · rw [map_of_poolFails he, he', Bool.and_false]
    rfl
  · rw [map_of_poolFails he]
    rfl
  · -- Both have the same count of processes, so that the pool does not fail with retries either.
    have hretrying : ∀ e, ¬retrying.PoolFails pool items e := h
    rw [map_of_not_poolFails hpool h, map_of_not_poolFails hpool hretrying]
  · rw [Collator.sort_fst, Collator.sort_fst]

theorem isSingle_ofSetting_two (cores : Nat) (retry : Bool) :
    (ofSetting cores (.int 2) retry).isSingle = false := by
  simp [ofSetting, countOn, Pool.isMachineCount, isSingleCount, Value.isTruthy, Value.same,
    Value.number?, Value.Real.same]

/-- Divisions of which the second fails, with a pool to which they cannot be sent. The longer column
has a divisor left over. -/
theorem map_agrees_with_serial_divisions :
    let columns : List (List Value) := [[.int 7, .int 1, .int 9], [.int 2, .int 0, .int 3, .int 4]]
    let f : List Value → Except Failure Value := fun row => Function.divide ⟨row, []⟩
    let p : Pool := ⟨Pool.startFor (.int 2), false, none⟩
    let e : Failure := .zeroDivision "integer division or modulo by zero"
    KeepsOrder (p.run f) f (rows columns) ∧
    (rows columns)[2]? = some [.int 9, .int 3] ∧ (rows columns)[3]? = none ∧
    (ofSetting 1 (.int 2) true).map (p.run f) f (rows columns) = (.error e, true) ∧
    (ofSetting 1 (.int 2) false).map (p.run f) f (rows columns) = (.error .type, false) := by
  intro columns f p e
  have hpool : KeepsOrder (p.run f) f (rows columns) := keepsOrder_run rfl f _
  obtain ⟨hrows, hresult, hnotice, -, honce, -⟩ := map_agrees_with_serial 1 (.int 2) hpool
  have hrun : p.run f (rows columns) = .error .type := rfl
  have hserial : Serial f (rows columns) (.error e) := by
    refine ⟨[[.int 7, .int 2]], [.int 1, .int 0], [[.int 9, .int 3]], rfl, ?_, rfl⟩
    intro x hx
    obtain rfl := List.mem_singleton.mp hx
    exact ⟨_, rfl⟩
  have hretrying : (ofSetting 1 (.int 2) true).PoolFails (p.run f) (rows columns) .type :=
    ⟨isSingle_ofSetting_two 1 true, by decide, hrun⟩
  have hordinary : ∀ e', (ofSetting 1 (.int 2) true).PoolFails (p.run f) (rows columns) e' →
      e'.isOrdinary = true := by
    intro e' he'
    obtain rfl := hretrying.eq he'
    decide
  refine ⟨hpool, (hrows 2 _).mpr ⟨List.cons_ne_nil _ _, rfl⟩, rfl, ?_, ?_⟩
  · exact Prod.ext ((hresult hordinary _).mpr hserial) (hnotice.mpr ⟨_, hretrying, by decide⟩)
  · exact honce _ ⟨isSingle_ofSetting_two 1 false, by decide, hrun⟩

/-- Powers of two with a pool that is interrupted, and with one that sends no items at a time. Neither
comes to what one worker does. -/
theorem map_differs_from_serial :
    let columns : List (List Value) := [[.int 1, .int 2, .int 3]]
    let f : List Value → Except Failure Value := fun row => Function.power ⟨.int 2 :: row, []⟩
    let interrupt : Failure := .raised .keyboardInterrupt []
    let interrupted : List (List Value) → Except Failure (List Value) := fun _ => .error interrupt
    let p : Pool := ⟨Pool.startFor (.int 2), true, some 0⟩
    Serial f (rows columns) (.ok [.int 2, .int 4, .int 8]) ∧
    KeepsOrder interrupted f (rows columns) ∧
    (ofSetting 1 (.int 2) true).map interrupted f (rows columns) = (.error interrupt, false) ∧
    (ofSetting 1 (.int 2) true).map (p.run f) f (rows columns) =
      (.ok [.none, .none, .none], false) := by
  intro columns f interrupt interrupted p
  have hfails : (ofSetting 1 (.int 2) true).PoolFails interrupted (rows columns) interrupt :=
    ⟨isSingle_ofSetting_two 1 true, by decide, rfl⟩
  refine ⟨rfl, nofun, ?_, ?_⟩
  · rw [map_of_poolFails hfails]
    rfl
  · rw [map_eq, isSingle_ofSetting_two]
    rfl

end Workers

end Collation
