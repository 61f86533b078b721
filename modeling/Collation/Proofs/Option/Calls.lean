import Mathlib.Data.List.Induction
import Mathlib.Data.List.Nodup
import Collation.Option.Store
import Collation.Proofs.Option.Values
import Collation.Proofs.Result

/-! Calls on a store of options, in any number and order. What a command line has given outranks all
other sources, and of each rank the last value counts. -/

namespace Collation.OptionStore

open Config

structure Declaration where
  name : Text
  default : Value
  description : Text

namespace Declaration

variable (d : Declaration)

/-- The name of the value. -/
def valueName : Text :=
  nameOf d.name

def key : Text :=
  '-' :: '-' :: d.name

def spec : OptionSpec :=
  ⟨d.key, d.description, .ofDefault d.default⟩

end Declaration

/-- A store with options that no call has given yet. -/
def declared (description : Text) (constants : Values) (ds : List Declaration) : OptionStore :=
  ds.foldl (fun o d => o.add d.name d.default d.description)
    { empty description with constants := constants }

inductive Call where
  | parse (argv : List Text)
  | update (vs : Values)

/-- A command line that cannot be read, or asks for help, changes nothing. -/
def call (o : OptionStore) : Call → OptionStore
  | .parse argv => (o.parse argv).toOption.getD o
  | .update vs => o.updateDefaults vs

def calls (o : OptionStore) (cs : List Call) : OptionStore :=
  cs.foldl call o

/-! What calls give, told without a store that changes. -/

/-- The arguments of the last group with a key, from what stands behind its equals sign on. -/
def lastArguments? (key : Text) (groups : List ArgumentGroup) : Option (List Text) :=
  (groups.reverse.find? fun g => (Text.cut '=' g.key).1 = key).map fun g =>
    (Text.cut '=' g.key).2.toList ++ g.arguments

/-- The conversion of the last occurrence of an option in a command line that can be read. -/
def given? (o : OptionStore) (d : Declaration) : Call → Option (Except Failure Value)
  | .parse argv =>
    if (o.parse argv).toOption.isSome then
      (lastArguments? d.key (splitArguments argv.tail).groups).map (d.spec.kind.convert d.key)
    else none
  | .update _ => none

/-- The last value for an option in a source of lower rank. Its name may have hyphens there. -/
def updated? (d : Declaration) : Call → Option Value
  | .parse _ => none
  | .update vs => (vs.reverse.find? fun p => nameOf p.1 = d.valueName).map Prod.snd

def positional? (o : OptionStore) : Call → Option (List Text)
  | .parse argv =>
    if (o.parse argv).toOption.isSome then some (splitArguments argv.tail).positional else none
  | .update _ => none

/-- The value that an option is due after calls. -/
def due (o : OptionStore) (d : Declaration) (cs : List Call) : Except Failure Value :=
  (cs.reverse.findSome? (o.given? d)).getD
    (.ok ((cs.reverse.findSome? (updated? d)).getD d.default))

variable {description : Text} {constants : Values} {ds : List Declaration} {d d' : Declaration}
  {o st : OptionStore} {argv : List Text} {vs : Values} {script name key : Text}
  {groups : List ArgumentGroup} {g : ArgumentGroup} {read : Values} {c : Call} {cs : List Call}
  {v : Value}

/-! Declared options. -/

theorem declared_concat (ds : List Declaration) (d : Declaration) :
    declared description constants (ds ++ [d]) =
      (declared description constants ds).add d.name d.default d.description := by
  rw [declared, List.foldl_append]
  rfl

theorem nodup_of_concat (h : ((ds ++ [d]).map Declaration.valueName).Nodup) :
    (ds.map Declaration.valueName).Nodup ∧ ∀ e ∈ ds, e.valueName ≠ d.valueName := by
  rw [List.map_append, List.nodup_append] at h
  obtain ⟨hds, -, hne⟩ := h
  refine ⟨hds, fun e he => ?_⟩
  exact hne e.valueName (List.mem_map_of_mem he) d.valueName (by simp)

theorem specs_declared (h : (ds.map Declaration.valueName).Nodup) :
    (declared description constants ds).specs = ds.map fun d => (d.valueName, d.spec) := by
  induction ds using List.reverseRecOn with
  | nil => rfl
  | append_singleton ds d ih =>
    obtain ⟨hds, hnew⟩ := nodup_of_concat h
    have hfresh : ((declared description constants ds).specs.any
        fun s => decide (s.1 = nameOf d.name)) = false := by
      rw [ih hds, List.any_eq_false]
      intro s hs
      obtain ⟨e, he, rfl⟩ := List.mem_map.mp hs
      have hne : e.valueName ≠ nameOf d.name := hnew e he
      simp [hne]
    rw [declared_concat, List.map_append, ← ih hds]
    unfold add
    simp only [hfresh]
    rfl

theorem values_declared (h : (ds.map Declaration.valueName).Nodup) (hd : d ∈ ds) :
    (declared description constants ds).values.get? d.valueName = some d.default := by
  induction ds using List.reverseRecOn with
  | nil => contradiction
  | append_singleton ds e ih =>
    obtain ⟨hds, hnew⟩ := nodup_of_concat h
    rw [declared_concat]
    change (Values.put _ e.valueName e.default).get? d.valueName = _
    rw [Values.get?_put]
    rcases List.mem_append.mp hd with hmem | hmem
    · rw [if_neg (hnew d hmem)]
      exact ih hds hmem
    · obtain rfl := List.mem_singleton.mp hmem
      rw [if_pos rfl]

theorem given_declared (ds : List Declaration) :
    (declared description constants ds).given = [] ∧
      (declared description constants ds).positional = [] := by
  induction ds using List.reverseRecOn with
  | nil => exact ⟨rfl, rfl⟩
  | append_singleton ds d ih =>
    rw [declared_concat]
    exact ih

theorem valueName_eq_iff (h : (ds.map Declaration.valueName).Nodup) (hd : d ∈ ds)
    (hd' : d' ∈ ds) : d'.valueName = d.valueName ↔ d'.key = d.key := by
  constructor
  · intro hname
    have heq : d' = d := List.inj_on_of_nodup_map h hd' hd hname
    rw [heq]
  · intro hkey
    have hsame : d'.name = d.name := (List.cons.inj (List.cons.inj hkey).2).2
    rw [Declaration.valueName, Declaration.valueName, hsame]

theorem declaration_of_ofKey? {spec : OptionSpec} (h : (ds.map Declaration.valueName).Nodup)
    (hspecs : o.specs = (declared description constants ds).specs)
    (hfound : o.ofKey? key = some (name, spec)) :
    ∃ e ∈ ds, name = e.valueName ∧ spec = e.spec ∧ e.key = key := by
  unfold ofKey? at hfound
  rw [hspecs, specs_declared h] at hfound
  have hkey := List.find?_some hfound
  obtain ⟨e, he, heq⟩ := List.mem_map.mp (List.mem_of_find?_eq_some hfound)
  obtain ⟨rfl, rfl⟩ := Prod.mk.inj heq
  exact ⟨e, he, rfl, rfl, of_decide_eq_true hkey⟩

/-! The groups of a command line. -/

/-- What a group is read as, if it is neither refused nor a request for help. -/
theorem group_eq_ok (h : o.group script g = .ok (name, v)) :
    ∃ spec, o.ofKey? (Text.cut '=' g.key).1 = some (name, spec) ∧
      spec.kind.convert spec.key ((Text.cut '=' g.key).2.toList ++ g.arguments) = .ok v := by
  unfold group at h
  dsimp only at h
  split at h
  · split at h <;> cases h
  · split at h
    · cases h
    · rename_i name' spec hfound
      split at h
      · rename_i w hw
        obtain ⟨rfl, rfl⟩ := Prod.mk.inj (Except.ok.inj h)
        exact ⟨spec, hfound, hw⟩
      · cases h

theorem lastArguments?_cons (g : ArgumentGroup) (groups : List ArgumentGroup) (key : Text) :
    lastArguments? key (g :: groups) = (lastArguments? key groups).or
      (if (Text.cut '=' g.key).1 = key then
        some ((Text.cut '=' g.key).2.toList ++ g.arguments) else none) := by
  unfold lastArguments?
  rw [List.reverse_cons, List.find?_append, Option.map_or]
  by_cases h : (Text.cut '=' g.key).1 = key
  · simp [h]
  · simp [h]

/-- The value that is read last for an option is the conversion of its last arguments. -/
theorem last?_of_groups (h : (ds.map Declaration.valueName).Nodup) (hd : d ∈ ds)
    (hspecs : o.specs = (declared description constants ds).specs)
    (hread : groups.mapM (o.group script) = .ok read) :
    (read.last? d.valueName).map Except.ok =
      (lastArguments? d.key groups).map (d.spec.kind.convert d.key) := by
  induction groups generalizing read with
  | nil =>
    obtain rfl : [] = read := Except.ok.inj hread
    rfl
  | cons g groups ih =>
    obtain ⟨p, rest, hg, hrest, rfl⟩ := mapM_cons_eq_ok hread
    obtain ⟨name, v⟩ := p
    obtain ⟨spec, hfound, hvalue⟩ := group_eq_ok hg
    obtain ⟨e, he, rfl, rfl, hkey⟩ := declaration_of_ofKey? h hspecs hfound
    rw [Values.last?_cons, lastArguments?_cons, Option.map_or, Option.map_or, ih hrest, ← hkey]
    congr 1
    by_cases hsame : e.key = d.key
    · have hname := (valueName_eq_iff h hd he).mpr hsame
      have heq : e = d := List.inj_on_of_nodup_map h he hd hname
      subst heq
      rw [if_pos rfl, if_pos rfl]
      exact congrArg some hvalue.symm
    · have hname : d.valueName ≠ e.valueName := fun heq =>
        hsame ((valueName_eq_iff h hd he).mp heq.symm)
      rw [if_neg hname, if_neg hsame]
      rfl

/-! One call. -/

/-- A store that has the options of another, whatever their values are. -/
structure SameOptions (o st : OptionStore) : Prop where
  specs : st.specs = o.specs
  description : st.description = o.description

theorem SameOptions.group_eq (h : SameOptions o st) (script : Text) (g : ArgumentGroup) :
    st.group script g = o.group script g := by
  unfold group ofKey? help
  rw [h.specs, h.description]

/-- Whether a command line can be read, and as what, depends on the options alone. -/
theorem SameOptions.parse_eq (h : SameOptions o st) (argv : List Text) :
    st.parse argv = ((splitArguments argv.tail).groups.mapM (o.group (argv.headD []))).map
      fun read => { st with
        values := st.values.putAll read
        given := (st.given ++ read.map Prod.fst).eraseDups
        positional := (splitArguments argv.tail).positional } := by
  have hgroup : st.group (argv.headD []) = o.group (argv.headD []) :=
    funext (h.group_eq (argv.headD []))
  unfold parse
  dsimp only
  rw [hgroup]
  rfl

theorem sameOptions_refl (o : OptionStore) : SameOptions o o :=
  ⟨rfl, rfl⟩

theorem SameOptions.call (h : SameOptions o st) (c : Call) : SameOptions o (st.call c) := by
  cases c with
  | update vs => exact ⟨h.specs, h.description⟩
  | parse argv =>
    change SameOptions o ((st.parse argv).toOption.getD st)
    rw [h.parse_eq argv]
    cases (splitArguments argv.tail).groups.mapM (o.group (argv.headD [])) with
    | error stop => exact h
    | ok read => exact ⟨h.specs, h.description⟩

/-- The two outcomes of a command line. -/
theorem SameOptions.call_parse (h : SameOptions o st) (argv : List Text) :
    ((o.parse argv).toOption.isSome = false ∧ st.call (.parse argv) = st) ∨
    ∃ read, (o.parse argv).toOption.isSome = true ∧
      (splitArguments argv.tail).groups.mapM (o.group (argv.headD [])) = .ok read ∧
      st.call (.parse argv) = { st with
        values := st.values.putAll read
        given := (st.given ++ read.map Prod.fst).eraseDups
        positional := (splitArguments argv.tail).positional } := by
  have hcall : st.call (.parse argv) = (st.parse argv).toOption.getD st := rfl
  rw [hcall, h.parse_eq argv, (sameOptions_refl o).parse_eq argv]
  cases (splitArguments argv.tail).groups.mapM (o.group (argv.headD [])) with
  | error stop => exact Or.inl ⟨rfl, rfl⟩
  | ok read => exact Or.inr ⟨read, rfl, rfl, rfl⟩

theorem mem_names_iff (read : Values) (name : Text) :
    name ∈ read.map Prod.fst ↔ (read.last? name).isSome = true := by
  unfold Values.last?
  rw [Values.isSome_lookup_iff, List.map_reverse, List.mem_reverse]

/-- Names are looked up with low lines in place of hyphens, and only some names count. -/
theorem lookup_nameOf (counts : Text → Bool) (vs : Values) (name : Text) :
    ((vs.map fun p => (nameOf p.1, p.2)).filter fun p => counts p.1).lookup name =
      if counts name then (vs.find? fun p => nameOf p.1 = name).map Prod.snd else none := by
  induction vs with
  | nil => split <;> rfl
  | cons p vs ih =>
    rw [List.map_cons, List.filter_cons, List.find?_cons]
    by_cases hname : nameOf p.1 = name
    · subst hname
      cases hcounts : counts (nameOf p.1) with
      | true => simp
      | false => simpa [hcounts] using ih
    · have hskip : decide (nameOf p.1 = name) = false := decide_eq_false hname
      rw [hskip]
      split
      · rw [lookup_cons_of_ne (Ne.symm hname), ih]
      · exact ih

theorem last?_applicable (h : (ds.map Declaration.valueName).Nodup) (hd : d ∈ ds)
    (hst : SameOptions (declared description constants ds) st) (vs : Values) :
    (st.applicable vs).last? d.valueName =
      if d.valueName ∈ st.given then none else updated? d (.update vs) := by
  have hknown : (st.specs.any fun s => decide (s.1 = d.valueName)) = true := by
    rw [hst.specs, specs_declared h, List.any_eq_true]
    exact ⟨(d.valueName, d.spec), List.mem_map.mpr ⟨d, hd, rfl⟩, decide_eq_true rfl⟩
  have hlookup := lookup_nameOf
    (fun n => (st.specs.any fun s => decide (s.1 = n)) && !st.given.contains n) vs.reverse d.valueName
  unfold applicable
  dsimp only
  rw [Values.last?_putAll_nil, Values.last?, ← List.filter_reverse, ← List.map_reverse, hlookup,
    hknown]
  by_cases hgiven : d.valueName ∈ st.given
  · simp [hgiven]
  · simp [hgiven, updated?]

/-- The value that a call leaves an option with. -/
theorem get?_call (h : (ds.map Declaration.valueName).Nodup) (hd : d ∈ ds)
    (hst : SameOptions (declared description constants ds) st) (c : Call) :
    ((st.call c).values.get? d.valueName).map Except.ok =
      ((declared description constants ds).given? d c).or
        (((if d.valueName ∈ st.given then none else updated? d c).or
          (st.values.get? d.valueName)).map Except.ok) := by
  cases c with
  | update vs =>
    have hcall : (st.call (.update vs)).values = st.values.putAll (st.applicable vs) := rfl
    rw [hcall, Values.get?_putAll, last?_applicable h hd hst]
    rfl
  | parse argv =>
    have hrank : (if d.valueName ∈ st.given then none else updated? d (.parse argv)) = none := by
      split <;> rfl
    rw [hrank, Option.none_or]
    obtain ⟨hfailed, hcall⟩ | ⟨read, hok, hread, hcall⟩ := hst.call_parse argv
    · rw [hcall, given?, hfailed]
      rfl
    · rw [hcall, given?, if_pos hok, ← last?_of_groups h hd rfl hread]
      exact (congrArg _ (Values.get?_putAll st.values read d.valueName)).trans Option.map_or

theorem mem_given_call (h : (ds.map Declaration.valueName).Nodup) (hd : d ∈ ds)
    (hst : SameOptions (declared description constants ds) st) (c : Call) :
    d.valueName ∈ (st.call c).given ↔ d.valueName ∈ st.given ∨
      ((declared description constants ds).given? d c).isSome = true := by
  cases c with
  | update vs =>
    have hcall : (st.call (.update vs)).given = st.given := rfl
    rw [hcall]
    simp [given?]
  | parse argv =>
    obtain ⟨hfailed, hcall⟩ | ⟨read, hok, hread, hcall⟩ := hst.call_parse argv
    · rw [hcall, given?, hfailed]
      simp
    · have hsome : ((declared description constants ds).given? d (.parse argv)).isSome =
          (Values.last? read d.valueName).isSome := by
        rw [given?, if_pos hok, ← last?_of_groups h hd rfl hread, Option.isSome_map]
      rw [hcall, hsome, List.mem_eraseDups, List.mem_append, mem_names_iff]

theorem positional_call (hst : SameOptions o st) (c : Call) :
    (st.call c).positional = (o.positional? c).getD st.positional := by
  cases c with
  | update vs => rfl
  | parse argv =>
    obtain ⟨hfailed, hcall⟩ | ⟨read, hok, hread, hcall⟩ := hst.call_parse argv
    · rw [hcall, positional?, hfailed]
      rfl
    · rw [hcall, positional?, if_pos hok]
      rfl

/-! Any number of calls. -/

theorem calls_concat (o : OptionStore) (cs : List Call) (c : Call) :
    o.calls (cs ++ [c]) = (o.calls cs).call c := by
  rw [calls, List.foldl_append]
  rfl

theorem sameOptions_calls (o : OptionStore) (cs : List Call) : SameOptions o (o.calls cs) := by
  induction cs using List.reverseRecOn with
  | nil => exact sameOptions_refl o
  | append_singleton cs c ih =>
    rw [calls_concat]
    exact ih.call c

theorem mem_given_calls (h : (ds.map Declaration.valueName).Nodup) (hd : d ∈ ds)
    (ho : o = declared description constants ds) (cs : List Call) :
    d.valueName ∈ (o.calls cs).given ↔ (cs.reverse.findSome? (o.given? d)).isSome = true := by
  subst ho
  induction cs using List.reverseRecOn with
  | nil =>
    have hnone : (declared description constants ds).given = [] := (given_declared ds).1
    change d.valueName ∈ (declared description constants ds).given ↔ _
    simp [hnone]
  | append_singleton cs c ih =>
    rw [calls_concat, mem_given_call h hd (sameOptions_calls _ cs), ih, List.reverse_concat,
      List.findSome?_cons]
    cases (declared description constants ds).given? d c with
    | none => simp
    | some r => simp

theorem get?_calls (h : (ds.map Declaration.valueName).Nodup) (hd : d ∈ ds)
    (ho : o = declared description constants ds) (cs : List Call) :
    ((o.calls cs).values.get? d.valueName).map Except.ok = some (o.due d cs) := by
  induction cs using List.reverseRecOn with
  | nil =>
    subst ho
    change ((declared description constants ds).values.get? d.valueName).map Except.ok = _
    rw [values_declared h hd]
    rfl
  | append_singleton cs c ih =>
    have hgiven := mem_given_calls h hd ho cs
    have hst := sameOptions_calls o cs
    subst ho
    rw [calls_concat, get?_call h hd hst, Option.map_or, ih]
    unfold due
    rw [List.reverse_concat, List.findSome?_cons, List.findSome?_cons]
    cases (declared description constants ds).given? d c with
    | some r => rfl
    | none =>
      -- What a command line has given before stays, and else the call may bring a value of its own.
      by_cases hmem : d.valueName ∈ ((declared description constants ds).calls cs).given
      · obtain ⟨r, hr⟩ := Option.isSome_iff_exists.mp (hgiven.mp hmem)
        rw [if_pos hmem, hr]
        rfl
      · have hnone : cs.reverse.findSome? ((declared description constants ds).given? d) = none :=
          Option.not_isSome_iff_eq_none.mp fun hsome => hmem (hgiven.mpr hsome)
        rw [if_neg hmem, hnone]
        cases updated? d c with
        | none => rfl
        | some v => rfl

theorem positional_calls (ho : o.positional = []) (cs : List Call) :
    (o.calls cs).positional = (cs.reverse.findSome? o.positional?).getD [] := by
  induction cs using List.reverseRecOn with
  | nil => exact ho
  | append_singleton cs c ih =>
    rw [calls_concat, positional_call (sameOptions_calls o cs), ih, List.reverse_concat,
      List.findSome?_cons]
    cases o.positional? c with
    | none => rfl
    | some texts => rfl

theorem get_of_values (h : o.values.get? name = some v) : o.get name = .ok v := by
  unfold get
  rw [List.findSome?_cons, h]

theorem get_calls (h : (ds.map Declaration.valueName).Nodup) (hd : d ∈ ds)
    (ho : o = declared description constants ds) (cs : List Call) :
    ∃ v, (o.calls cs).get d.valueName = .ok v ∧ o.due d cs = .ok v := by
  obtain ⟨v, hv, hdue⟩ := Option.map_eq_some_iff.mp (get?_calls h hd ho cs)
  exact ⟨v, get_of_values hv, hdue.symm⟩

/-- A command line and a source of lower rank give the same values in either order. -/
theorem due_swap (o : OptionStore) (d : Declaration) (cs : List Call) (argv : List Text)
    (vs : Values) : o.due d (cs ++ [.parse argv] ++ [.update vs]) =
      o.due d (cs ++ [.update vs] ++ [.parse argv]) := by
  have hgiven : o.given? d (.update vs) = none := rfl
  have hupdated : updated? d (.parse argv) = none := rfl
  unfold due
  simp only [List.reverse_append, List.reverse_singleton, List.singleton_append,
    List.findSome?_cons, hgiven, hupdated]

/-- After any calls, an option has the value that the last command line to name it has given, else
the last value from a source of lower rank, else its default. The positional arguments are those of
the last command line that could be read. -/
theorem values_after_calls (description : Text) (constants : Values) (ds : List Declaration)
    (h : (ds.map Declaration.valueName).Nodup) (cs : List Call) :
    let o := declared description constants ds
    (∀ d ∈ ds, ∃ v, (o.calls cs).get d.valueName = .ok v ∧ o.due d cs = .ok v) ∧
    (o.calls cs).positional = (cs.reverse.findSome? o.positional?).getD [] ∧
    ∀ d ∈ ds, ∀ argv vs,
      (((o.calls cs).call (.parse argv)).call (.update vs)).get d.valueName =
        (((o.calls cs).call (.update vs)).call (.parse argv)).get d.valueName := by
  intro o
  have ho : o = declared description constants ds := rfl
  refine ⟨fun d hd => get_calls h hd ho cs, positional_calls (given_declared ds).2 cs, ?_⟩
  intro d hd argv vs
  obtain ⟨v, hv, hdue⟩ := get_calls h hd ho (cs ++ [.parse argv] ++ [.update vs])
  obtain ⟨w, hw, hdue'⟩ := get_calls h hd ho (cs ++ [.update vs] ++ [.parse argv])
  have hsame : v = w := Except.ok.inj (hdue.symm.trans ((due_swap _ d cs argv vs).trans hdue'))
  rw [calls_concat, calls_concat] at hv hw
  rw [hv, hw, hsame]

/-- A command line that cannot be read stands between two others. -/
theorem values_after_calls_repeated :
    let ds : List Declaration := [⟨"names", .list [], []⟩, ⟨"rules-file", .text "a", []⟩]
    let cs : List Call := [.update [("rules_file", .text "b")],
      .parse ["program", "x", "--names=k", "--names", "l", "m"],
      .parse ["program", "y", "--names=n", "--rules-file", "d", "e"],
      .update [("rules-file", .text "c"), ("names", .text "o")]]
    (ds.map Declaration.valueName).Nodup ∧
    ((declared [] [] ds).calls cs).get "names" = .ok (.list [.text "l", .text "m"]) ∧
    ((declared [] [] ds).calls cs).get "rules_file" = .ok (.text "c") ∧
    ((declared [] [] ds).calls cs).positional = ["x".toList] := by
  intro ds cs
  have hnodup : (ds.map Declaration.valueName).Nodup := by decide
  obtain ⟨hvalues, hpositional, -⟩ := values_after_calls [] [] ds hnodup cs
  obtain ⟨names, hnames, hdue⟩ := hvalues ds[0] (by simp)
  obtain ⟨file, hfile, hdue'⟩ := hvalues ds[1] (by simp)
  refine ⟨hnodup, hnames.trans (hdue.symm.trans rfl), hfile.trans (hdue'.symm.trans rfl), ?_⟩
  exact hpositional.trans rfl

end Collation.OptionStore
