import Collation.Proofs.Option.Calls
import Collation.Proofs.Option.Help

/-! Command lines read step by step into a store that changes. A store is changed by a whole command
line or not at all. -/

namespace Collation.OptionStore

open Config

/-- An action on options. What it has changed before it stops stays changed. -/
abbrev Action := ExceptT Stop (StateM OptionStore)

namespace Action

variable {α β : Type}

/-- What an action comes to, and the store that it leaves. -/
def exec (x : Action α) (o : OptionStore) : Except Stop α × OptionStore :=
  x.run.run o

/-- Reads a group on top of what was read before it. -/
def readGroup (script : Text) (read : Values) (g : ArgumentGroup) : Action Values := do
  match (← getThe OptionStore).group script g with
  | .ok (name, v) => return read.put name v
  | .error stop => throw stop

/-- Reads all groups, and then changes the store in three steps. -/
def parse (argv : List Text) : Action Unit := do
  let split := splitArguments argv.tail
  let read ← split.groups.foldlM (readGroup (argv.headD [])) []
  modify fun o => { o with values := o.values.putAll read }
  modify fun o => { o with given := (o.given ++ read.map Prod.fst).eraseDups }
  modify fun o => { o with positional := split.positional }

/-- Gives options the values of a source of lower rank, and tells which. -/
def updateDefaults (vs : Values) : Action Values := do
  let applied := (← getThe OptionStore).applicable vs
  modify fun o => { o with values := o.values.putAll applied }
  return applied

/-- Goes on whether or not an action stops. -/
def attempt (x : Action Unit) : Action Unit :=
  tryCatch x fun _ => pure ()

variable {x : Action α} {f : α → Action β} {o o' : OptionStore} {v : α}

theorem exec_bind (x : Action α) (f : α → Action β) (o : OptionStore) :
    (x >>= f).exec o = match x.exec o with
      | (.ok v, o') => (f v).exec o'
      | (.error stop, o') => (.error stop, o') := by
  rw [exec, ExceptT.run_bind, StateT.run_bind, exec]
  rcases x.run.run o with ⟨_ | v, o'⟩ <;> rfl

theorem exec_bind_of_ok (h : x.exec o = (.ok v, o')) : (x >>= f).exec o = (f v).exec o' := by
  rw [exec_bind, h]

theorem exec_attempt (x : Action Unit) (o : OptionStore) :
    (attempt x).exec o = (.ok (), (x.exec o).2) := by
  rw [exec, attempt, ExceptT.run_tryCatch, StateT.run_bind, exec]
  rcases x.run.run o with ⟨_ | v, o'⟩ <;> rfl

theorem exec_updateDefaults (vs : Values) (o : OptionStore) :
    (updateDefaults vs).exec o = (.ok (o.applicable vs), o.updateDefaults vs) := rfl

/-- Reading a group leaves the store alone. -/
theorem exec_readGroup (script : Text) (read : Values) (g : ArgumentGroup) (o : OptionStore) :
    (readGroup script read g).exec o =
      ((o.group script g).map fun p => read.put p.1 p.2, o) := by
  have hget : (getThe OptionStore : Action OptionStore).exec o = (.ok o, o) := rfl
  unfold readGroup
  rw [exec_bind_of_ok hget]
  cases o.group script g <;> rfl

/-- However many groups are read, the store is as it was, also where one of them stops. -/
theorem exec_readGroups (groups : List ArgumentGroup) (script : Text) (read : Values)
    (o : OptionStore) :
    exec (groups.foldlM (readGroup script) read) o =
      ((groups.mapM (o.group script)).map read.putAll, o) := by
  induction groups generalizing read with
  | nil => rfl
  | cons g groups ih =>
    rw [List.foldlM_cons, List.mapM_cons, exec_bind, exec_readGroup]
    cases o.group script g with
    | error stop => rfl
    | ok p =>
      refine (ih (read.put p.1 p.2)).trans ?_
      cases groups.mapM (o.group script) <;> rfl

/-- What was read is put together before it changes the store, which makes no difference. -/
theorem exec_parse (argv : List Text) (o : OptionStore) :
    (parse argv).exec o = match o.parse argv with
      | .ok o' => (.ok (), o')
      | .error stop => (.error stop, o) := by
  have hread := exec_readGroups (splitArguments argv.tail).groups (argv.headD []) [] o
  unfold parse OptionStore.parse
  dsimp only
  rw [exec_bind, hread]
  cases (splitArguments argv.tail).groups.mapM (o.group (argv.headD [])) with
  | error stop => rfl
  | ok read =>
    have hvalues := Values.putAll_putAll o.values [] read
    have hgiven := Values.eraseDups_names_putAll o.given [] read
    change (Except.ok (), { o with
      values := o.values.putAll (Values.putAll [] read)
      given := (o.given ++ (Values.putAll [] read).map Prod.fst).eraseDups
      positional := (splitArguments argv.tail).positional }) = _
    rw [hvalues, hgiven]
    rfl

end Action

/-- Why a group stops a command line: it asks for help, its key is that of no option, or its
arguments are not what the option takes. -/
inductive Stops (o : OptionStore) (script : Text) (g : ArgumentGroup) : Stop → Prop where
  | help {text : Text} (hkey : (Text.cut '=' g.key).1 = "-h" ∨ (Text.cut '=' g.key).1 = "--help")
      (htext : o.help script = .ok text) : Stops o script g (.help text)
  | unknown (hkey : o.ofKey? (Text.cut '=' g.key).1 = none) :
      Stops o script g (.failure (.unknownOption (Text.cut '=' g.key).1))
  | unfit {name : Text} {spec : OptionSpec} {e : Failure}
      (hkey : o.ofKey? (Text.cut '=' g.key).1 = some (name, spec))
      (hvalue : spec.kind.convert spec.key ((Text.cut '=' g.key).2.toList ++ g.arguments) =
        .error e) : Stops o script g (.failure e)

variable {o : OptionStore} {script : Text} {g : ArgumentGroup} {stop : Stop}

theorem exists_help (o : OptionStore) (script : Text) : ∃ text, o.help script = .ok text := by
  have hlimit : 10 < Help.defaultLimit := by decide
  obtain ⟨column, hcolumn⟩ := Help.exists_column hlimit (o.specs.map Prod.snd)
  exact ⟨_, Help.text_of_column hcolumn _ _⟩

theorem stops_of_group (h : o.group script g = .error stop) : Stops o script g stop := by
  unfold group at h
  dsimp only at h
  split at h
  · next hkey =>
    obtain ⟨text, htext⟩ := o.exists_help script
    rw [htext] at h
    obtain rfl := Except.error.inj h
    rw [Bool.or_eq_true, decide_eq_true_eq, decide_eq_true_eq] at hkey
    exact .help hkey htext
  · split at h
    · next hkey =>
      obtain rfl := Except.error.inj h
      exact .unknown hkey
    · next name spec hkey =>
      split at h
      · contradiction
      · next e hvalue =>
        obtain rfl := Except.error.inj h
        exact .unfit hkey hvalue

namespace Action

/-- A command line that can be read changes the store by all that it gives. Any other one stops at
the first group that gives no value, and leaves the store as it was, no matter how many groups were
read before it. Sources of lower rank then have the effect that they would have had without it. -/
theorem parse_all_or_nothing (o : OptionStore) (argv : List Text) :
    let script := argv.headD []
    let split := splitArguments argv.tail
    (∃ read o', split.groups.mapM (o.group script) = .ok read ∧
      o' = { o with
        values := o.values.putAll read
        given := (o.given ++ read.map Prod.fst).eraseDups
        positional := split.positional } ∧
      o.parse argv = .ok o' ∧ (parse argv).exec o = (.ok (), o')) ∨
    ∃ before g after read stop, split.groups = before ++ g :: after ∧
      before.mapM (o.group script) = .ok read ∧ Stops o script g stop ∧
      o.parse argv = .error stop ∧ (parse argv).exec o = (.error stop, o) ∧
      ∀ vs, exec (do attempt (parse argv); updateDefaults vs) o =
        (.ok (o.applicable vs), o.updateDefaults vs) := by
  intro script split
  have hparse := (sameOptions_refl o).parse_eq argv
  have hexec := exec_parse argv o
  cases hread : split.groups.mapM (o.group script) with
  | ok read =>
    rw [hread] at hparse
    rw [hparse] at hexec
    exact Or.inl ⟨read, _, rfl, rfl, hparse, hexec⟩
  | error stop =>
    rw [hread] at hparse
    rw [hparse] at hexec
    obtain ⟨before, g, after, read, hgroups, hbefore, hg⟩ := mapM_eq_error hread
    have hattempt : (attempt (parse argv)).exec o = (.ok (), o) := by
      rw [exec_attempt, hexec]
      rfl
    exact Or.inr ⟨before, g, after, read, stop, hgroups, hbefore, stops_of_group hg, hparse, hexec,
      fun vs => (exec_bind_of_ok hattempt).trans (exec_updateDefaults vs o)⟩

end Action

end Collation.OptionStore
