import Collation.Config.File
import Collation.Proofs.Config.Setting
import Collation.Proofs.Run.Setup
import Collation.Proofs.Text.Utf8

/-! A section that is read into values that are there already. Its own settings and the defaults are
all that it adds. A setting of any section that cannot be evaluated makes the whole file fail, and
then nothing is added. -/

namespace Collation.Config

namespace Layout

def section? (l : Layout) (name : Text) : Option Section :=
  l.sections.find? (·.name = name)

/-- The settings of a section and of the defaults. A section that is not there has none. -/
def settingsOf (l : Layout) (name : Text) : List (Text × Text) :=
  ((l.section? name).map l.settings).getD []

/-- The settings of all sections, in the order in which they are evaluated. -/
def allSettings (l : Layout) : List (Text × Text) :=
  l.sections.flatMap l.settings

/-- No section comes twice, and neither does an option in one place. -/
structure NamesOnce (l : Layout) : Prop where
  sections : (l.sections.map Section.name).Nodup
  defaults : (l.defaults.map Prod.fst).Nodup
  options : ∀ s ∈ l.sections, (s.options.map Prod.fst).Nodup

variable {l : Layout} {s : Section}

theorem NamesOnce.section?_of_mem (h : l.NamesOnce) (hs : s ∈ l.sections) :
    l.section? s.name = some s :=
  find?_of_nodup_map h.sections hs

end Layout

/-! No name comes twice in what is read, line after line. -/

namespace Reading

variable {r r' : Reading} {line : Text} {lines : List Text} {number : Nat} {f : Options → Options}

theorem nodup_options (h : r.layout.NamesOnce) : (r.options.map Prod.fst).Nodup := by
  unfold options
  cases r.place with
  | nowhere => exact List.nodup_nil
  | defaults => exact h.defaults
  | named name =>
    dsimp only
    cases hs : r.layout.sections.find? fun s => decide (s.name = name) with
    | none => exact List.nodup_nil
    | some s => exact h.options s (List.mem_of_find?_eq_some hs)

theorem namesOnce_changeOptions (h : r.layout.NamesOnce)
    (hf : ((f r.options).map Prod.fst).Nodup) : (r.changeOptions f).layout.NamesOnce := by
  unfold options at hf
  unfold changeOptions
  cases hplace : r.place with
  | nowhere => exact h
  | defaults =>
    rw [hplace] at hf
    exact ⟨h.sections, hf, h.options⟩
  | named name =>
    rw [hplace] at hf
    refine ⟨?_, h.defaults, ?_⟩
    · have hnames : (r.layout.sections.map fun s =>
          if s.name = name then ⟨name, f s.options⟩ else s).map Section.name =
          r.layout.sections.map Section.name := by
        rw [List.map_map]
        apply List.map_congr_left
        intro s _
        by_cases hs : s.name = name <;> simp [hs]
      exact hnames ▸ h.sections
    · intro s' hs'
      obtain ⟨s, hs, rfl⟩ := List.mem_map.mp hs'
      by_cases hname : s.name = name
      · -- The section that changes is the one in which the options were looked up.
        subst hname
        have hfound : r.layout.sections.find? (fun t => decide (t.name = s.name)) = some s :=
          h.section?_of_mem hs
        dsimp only at hf
        rw [hfound] at hf
        rw [if_pos rfl]
        exact hf
      · rw [if_neg hname]
        exact h.options s hs

theorem nodup_of_new {α : Type} {key : α → Text} {xs : List α} {name : Text}
    (h : (xs.map key).Nodup) (hnew : ∀ x ∈ xs, key x ≠ name) : (xs.map key ++ [name]).Nodup := by
  have hnot : name ∉ xs.map key := by
    intro hmem
    obtain ⟨x, hx, hname⟩ := List.mem_map.mp hmem
    exact hnew x hx hname
  exact h.append (List.nodup_singleton name) (List.disjoint_singleton.mpr hnot)

theorem namesOnce_step (h : r.Step line r') (hr : r.layout.NamesOnce) : r'.layout.NamesOnce := by
  cases h with
  | skip => exact hr
  | @goOn option =>
    apply namesOnce_changeOptions hr
    have hnames : (r.options.map fun o =>
        if o.1 = option then (o.1, o.2 ++ [Text.strip line]) else o).map Prod.fst =
        r.options.map Prod.fst := by
      rw [List.map_map]
      apply List.map_congr_left
      intro o _
      by_cases ho : o.1 = option <;> simp [ho]
    exact hnames ▸ nodup_options hr
  | defaults => exact hr
  | @opens name _ hnew =>
    refine ⟨?_, hr.defaults, ?_⟩
    · rw [List.map_append]
      exact nodup_of_new hr.sections hnew
    · intro s hs
      rcases List.mem_append.mp hs with hold | hadded
      · exact hr.options s hold
      · obtain rfl := List.mem_singleton.mp hadded
        exact List.nodup_nil
  | @sets name value _ _ hnew =>
    apply namesOnce_changeOptions (r := { r with indent := indentOf line }) hr
    rw [List.map_append]
    exact nodup_of_new (nodup_options hr) hnew
  | bad => exact hr

theorem namesOnce_lines (h : r.lines number lines = .ok r') (hr : r.layout.NamesOnce) :
    r'.layout.NamesOnce :=
  lines_invariant (P := fun r => r.layout.NamesOnce) namesOnce_step h hr

theorem layout_of_finish {l : Layout} (h : r.finish = .ok l) : r.layout = l := by
  unfold finish at h
  split at h
  · exact Except.ok.inj h
  · contradiction

end Reading

variable {l l' : Layout} {lines : List Text} {name path text : Text} {vs own : Values}
  {sections : List (Text × Values)} {e : Failure}

theorem Layout.namesOnce_of_layout (h : layout lines = .ok l) : l.NamesOnce := by
  obtain ⟨r, hlines, hfinish⟩ := bind_eq_ok h
  obtain rfl := Reading.layout_of_finish hfinish
  exact Reading.namesOnce_lines hlines ⟨List.nodup_nil, List.nodup_nil, nofun⟩

/-- A section takes only those of the defaults that it does not set itself. -/
theorem Layout.NamesOnce.nodup_settings (h : l.NamesOnce) {s : Section} (hs : s ∈ l.sections) :
    ((l.settings s).map Prod.fst).Nodup := by
  let inherited := l.defaults.filter fun d => !s.options.any (·.1 = d.1)
  have hnames : (l.settings s).map Prod.fst =
      s.options.map Prod.fst ++ inherited.map Prod.fst := by
    unfold settings
    rw [List.map_map, ← List.map_append]
    rfl
  have hinherited : (inherited.map Prod.fst).Nodup :=
    h.defaults.sublist (List.filter_sublist.map Prod.fst)
  rw [hnames]
  refine (h.options s hs).append hinherited fun name hown hdefault => ?_
  obtain ⟨o, ho, rfl⟩ := List.mem_map.mp hown
  obtain ⟨d, hd, hname⟩ := List.mem_map.mp hdefault
  have hnone := (List.mem_filter.mp hd).2
  rw [Bool.not_eq_true', List.any_eq_false] at hnone
  exact hnone o ho (decide_eq_true hname.symm)

theorem Layout.NamesOnce.nodup_settingsOf (h : l.NamesOnce) (name : Text) :
    ((l.settingsOf name).map Prod.fst).Nodup := by
  unfold settingsOf
  cases hs : l.section? name with
  | none => exact List.nodup_nil
  | some s => exact h.nodup_settings (List.mem_of_find?_eq_some hs)

/-! What settings stand for. -/

/-- A setting with its value in place of its text. -/
def evaluateSetting (setting : Text × Text) : Except Failure (Text × Value) := do
  return (setting.1, ← evaluate setting.2)

/-- Whether all settings of a file can be evaluated. -/
def Layout.Evaluates (l : Layout) : Prop :=
  ∀ setting ∈ l.allSettings, ∃ v, evaluate setting.2 = .ok v

/-- What the first of some settings that cannot be evaluated fails with. -/
def FailsFirst (settings : List (Text × Text)) (e : Failure) : Prop :=
  ∃ before setting after, settings = before ++ setting :: after ∧
    (∀ other ∈ before, ∃ v, evaluate other.2 = .ok v) ∧ evaluate setting.2 = .error e

/-- All that a text can fail with, in place of standing for itself. -/
theorem evaluate_eq_error (h : evaluate text = .error e) :
    e = .type ∨ e = .tooNested ∨ e = .tooHigh ∨ e = .tooLarge ∨ e = .surrogates := by
  unfold evaluate at h
  split at h
  · contradiction
  · exact Or.inl (Except.error.inj h).symm
  · exact Or.inr (Or.inl (Except.error.inj h).symm)
  · exact Or.inr (Or.inr (Or.inl (Except.error.inj h).symm))
  · exact Or.inr (Or.inr (Or.inr (Or.inl (Except.error.inj h).symm)))
  · exact Or.inr (Or.inr (Or.inr (Or.inr (Except.error.inj h).symm)))

theorem evaluateSetting_eq_ok {setting : Text × Text} {p : Text × Value}
    (h : evaluateSetting setting = .ok p) :
    p.1 = setting.1 ∧ evaluate setting.2 = .ok p.2 := by
  obtain ⟨v, hv, hp⟩ := bind_eq_ok h
  obtain rfl := Except.ok.inj hp
  exact ⟨rfl, hv⟩

theorem evaluateSetting_eq_error {setting : Text × Text} (h : evaluateSetting setting = .error e) :
    evaluate setting.2 = .error e := by
  unfold evaluateSetting at h
  cases hv : evaluate setting.2 with
  | error e' =>
    rw [hv] at h
    exact congrArg Except.error (Except.error.inj h)
  | ok v =>
    rw [hv] at h
    contradiction

variable {settings more : List (Text × Text)}

theorem names_of_evaluateSetting (h : settings.mapM evaluateSetting = .ok own) :
    own.map Prod.fst = settings.map Prod.fst := by
  induction settings generalizing own with
  | nil =>
    obtain rfl := Except.ok.inj h
    rfl
  | cons setting settings ih =>
    obtain ⟨p, own, hp, hrest, rfl⟩ := mapM_cons_eq_ok h
    rw [List.map_cons, List.map_cons, ih hrest, (evaluateSetting_eq_ok hp).1]

theorem evaluates_of_evaluateSetting (h : settings.mapM evaluateSetting = .ok own) :
    ∀ setting ∈ settings, ∃ v, evaluate setting.2 = .ok v := by
  induction settings generalizing own with
  | nil => exact nofun
  | cons setting settings ih =>
    obtain ⟨p, own, hp, hrest, rfl⟩ := mapM_cons_eq_ok h
    intro other hother
    rcases List.mem_cons.mp hother with rfl | hmem
    · exact ⟨p.2, (evaluateSetting_eq_ok hp).2⟩
    · exact ih hrest other hmem

theorem failsFirst_of_evaluateSetting (h : settings.mapM evaluateSetting = .error e) :
    FailsFirst settings e := by
  obtain ⟨before, setting, after, own, hsettings, hbefore, hsetting⟩ := mapM_eq_error h
  exact ⟨before, setting, after, hsettings, evaluates_of_evaluateSetting hbefore,
    evaluateSetting_eq_error hsetting⟩

theorem FailsFirst.append_right (h : FailsFirst settings e) (more : List (Text × Text)) :
    FailsFirst (settings ++ more) e := by
  obtain ⟨before, setting, after, rfl, hbefore, he⟩ := h
  exact ⟨before, setting, after ++ more, by simp, hbefore, he⟩

theorem FailsFirst.append_left (h : FailsFirst more e)
    (hsettings : ∀ setting ∈ settings, ∃ v, evaluate setting.2 = .ok v) :
    FailsFirst (settings ++ more) e := by
  obtain ⟨before, setting, after, rfl, hbefore, he⟩ := h
  exact ⟨settings ++ before, setting, after, (List.append_assoc _ _ _).symm,
    List.forall_mem_append.mpr ⟨hsettings, hbefore⟩, he⟩

theorem FailsFirst.exists_error (h : FailsFirst settings e) :
    ∃ setting ∈ settings, evaluate setting.2 = .error e := by
  obtain ⟨before, setting, after, rfl, -, he⟩ := h
  exact ⟨setting, List.mem_append_right before List.mem_cons_self, he⟩

theorem get?_of_evaluateSetting (h : settings.mapM evaluateSetting = .ok own) (option : Text) :
    own.get? option = (settings.lookup option).bind fun t => (evaluate t).toOption := by
  induction settings generalizing own with
  | nil =>
    obtain rfl := Except.ok.inj h
    rfl
  | cons setting settings ih =>
    obtain ⟨⟨key, v⟩, own, hp, hrest, rfl⟩ := mapM_cons_eq_ok h
    obtain ⟨key', t⟩ := setting
    obtain ⟨rfl, hv⟩ := evaluateSetting_eq_ok hp
    unfold Values.get?
    by_cases hoption : option = key
    · subst hoption
      rw [List.lookup_cons_self, List.lookup_cons_self, Option.bind_some, hv]
      rfl
    · rw [lookup_cons_of_ne hoption, lookup_cons_of_ne hoption]
      exact ih hrest

/-- Settings that are put among other values replace those of their names. -/
theorem get?_putAll_of_evaluateSetting (h : settings.mapM evaluateSetting = .ok own)
    (hnames : (settings.map Prod.fst).Nodup) (vs : Values) (option : Text) :
    (vs.putAll own).get? option = match settings.lookup option with
      | some t => (evaluate t).toOption
      | none => vs.get? option := by
  have hown : (own.map Prod.fst).Nodup := by rwa [names_of_evaluateSetting h]
  rw [Values.get?_putAll, Values.last?_of_nodup hown, get?_of_evaluateSetting h]
  cases hlookup : settings.lookup option with
  | none => rfl
  | some t =>
    rw [lookup_eq_find?] at hlookup
    obtain ⟨setting, hfound, rfl⟩ := Option.map_eq_some_iff.mp hlookup
    obtain ⟨v, hv⟩ := evaluates_of_evaluateSetting h setting (List.mem_of_find?_eq_some hfound)
    change ((evaluate setting.2).toOption).or _ = (evaluate setting.2).toOption
    rw [hv]
    rfl

/-! The values of all sections. -/

theorem lookup_eq_none_of_mapM {ss : List Section} {f : Section → Except Failure Values}
    (h : ss.mapM (fun s => do return (s.name, ← f s)) = .ok sections)
    (hs : ss.find? (·.name = name) = none) : sections.lookup name = none := by
  induction ss generalizing sections with
  | nil =>
    obtain rfl := Except.ok.inj h
    rfl
  | cons s ss ih =>
    obtain ⟨p, sections, hp, hrest, rfl⟩ := mapM_cons_eq_ok h
    obtain ⟨vs, -, hpair⟩ := bind_eq_ok hp
    obtain rfl := Except.ok.inj hpair
    have hne : name ≠ s.name := by
      rintro rfl
      exact List.find?_eq_none.mp hs s List.mem_cons_self (decide_eq_true rfl)
    rw [List.find?_cons_of_neg (by simpa using hne.symm)] at hs
    rw [lookup_cons_of_ne hne]
    exact ih hrest hs

/-- What is found for a section are the values of its settings. -/
theorem Layout.mapM_settingsOf (h : l.values = .ok sections) (name : Text) :
    (l.settingsOf name).mapM evaluateSetting = .ok ((sections.lookup name).getD []) := by
  unfold settingsOf
  cases hs : l.section? name with
  | none =>
    rw [lookup_eq_none_of_mapM h hs]
    rfl
  | some s =>
    obtain ⟨own, hown, hlookup⟩ := lookup_of_mapM h hs
    rw [hlookup]
    exact hown

/-- The values of a section under its name. -/
def Layout.evaluateSection (l : Layout) (s : Section) : Except Failure (Text × Values) := do
  return (s.name, ← (l.settings s).mapM evaluateSetting)

/-- Evaluating section after section comes to the same as evaluating all their settings. -/
theorem Layout.evaluateSection_cases (l : Layout) (ss : List Section) :
    (∃ sections, ss.mapM l.evaluateSection = .ok sections ∧
      ∀ setting ∈ ss.flatMap l.settings, ∃ v, evaluate setting.2 = .ok v) ∨
    ∃ e, FailsFirst (ss.flatMap l.settings) e ∧ ss.mapM l.evaluateSection = .error e := by
  induction ss with
  | nil => exact Or.inl ⟨[], rfl, nofun⟩
  | cons s ss ih =>
    rw [List.flatMap_cons, List.mapM_cons]
    unfold evaluateSection at ih ⊢
    cases hs : (l.settings s).mapM evaluateSetting with
    | error e =>
      exact Or.inr ⟨e, (failsFirst_of_evaluateSetting hs).append_right _, rfl⟩
    | ok own =>
      have hown := evaluates_of_evaluateSetting hs
      rcases ih with ⟨sections, hsections, hall⟩ | ⟨e, hfirst, hfail⟩
      · refine Or.inl ⟨(s.name, own) :: sections, ?_, List.forall_mem_append.mpr ⟨hown, hall⟩⟩
        rw [hsections]
        rfl
      · refine Or.inr ⟨e, hfirst.append_left hown, ?_⟩
        rw [hfail]
        rfl

/-- The values of a file are there if all its settings can be evaluated, and the first one that
cannot is what it fails with. -/
theorem Layout.values_cases (l : Layout) :
    (∃ sections, l.values = .ok sections ∧ l.Evaluates) ∨
      ∃ e, FailsFirst l.allSettings e ∧ l.values = .error e :=
  l.evaluateSection_cases l.sections

theorem Layout.evaluates_iff (l : Layout) :
    l.Evaluates ↔ ∃ sections, l.values = .ok sections := by
  rcases l.values_cases with ⟨sections, hsections, hall⟩ | ⟨e, hfirst, hfail⟩
  · exact ⟨fun _ => ⟨sections, hsections⟩, fun _ => hall⟩
  · constructor
    · intro hvalues
      obtain ⟨setting, hmem, he⟩ := hfirst.exists_error
      obtain ⟨v, hv⟩ := hvalues setting hmem
      rw [hv] at he
      contradiction
    · rintro ⟨sections, hsections⟩
      rw [hsections] at hfail
      contradiction

theorem read_of_layout (h : layout (fileLines (Text.unifyNewlines text)) = .ok l) :
    read path (Utf8.encode text) = l.values := by
  obtain ⟨r, hlines, hfinish⟩ := bind_eq_ok h
  unfold read
  rw [linesOfBytes_of_decode (Utf8.decode_encode text)]
  change (do
    let r ← (Reading.start.lines 1 (fileLines (Text.unifyNewlines text))).mapError (.config path)
    (← r.finish.mapError (.config path)).values) = l.values
  rw [hlines]
  change (do (← r.finish.mapError (.config path)).values) = l.values
  rw [hfinish]
  rfl

end Collation.Config

namespace Collation.Machine

/-- The file at a path is a text in UTF-8 that is laid out in these sections. -/
def HasLayout (s : Machine) (path : Text) (l : Config.Layout) : Prop :=
  ∃ text, s.file path = .ok (Utf8.encode text) ∧
    Config.layout (Config.fileLines (Text.unifyNewlines text)) = .ok l

end Collation.Machine

namespace Collation.Config

/-- An action on values where they are. What it has changed before it fails stays changed. -/
abbrev InPlace := Attempt (StateT Values (StateM Machine))

namespace InPlace

/-- What an action comes to, and the values and the machine that it leaves. -/
def exec {α : Type} (x : InPlace α) (vs : Values) (s : Machine) :
    (Except Failure α × Values) × Machine :=
  (x.run.run vs).run s

/-- Reads a section into values that are there. -/
def readSection (path name : Text) : InPlace Bool := do
  match ← (Host.read path : StateT Values (StateM Machine) _) with
  | .error .notFound => return false
  | .error cause => throw (.file cause path)
  | .ok bytes =>
    match read path bytes with
    | .error e => throw e
    | .ok sections =>
      modify fun vs => vs.putAll ((sections.lookup name).getD [])
      return true

theorem exec_bind_of_ok {α β : Type} {x : InPlace α} {a : α} {vs vs' : Values} {s s' : Machine}
    (h : x.exec vs s = ((.ok a, vs'), s')) (f : α → InPlace β) :
    (x >>= f).exec vs s = (f a).exec vs' s' := by
  unfold exec at h ⊢
  rw [ExceptT.run_bind, StateT.run_bind, StateT.run_bind, h]
  rfl

theorem exec_readSection (path name : Text) (vs : Values) (s : Machine) :
    (readSection path name).exec vs s = match s.file path with
      | .error .notFound => ((.ok false, vs), s)
      | .error cause => ((.error (.file cause path), vs), s)
      | .ok bytes => match read path bytes with
        | .error e => ((.error e, vs), s)
        | .ok sections => ((.ok true, vs.putAll ((sections.lookup name).getD [])), s) := by
  have hread : exec (liftM (Host.read path : StateT Values (StateM Machine) _)) vs s =
    ((.ok (s.file path), vs), s) := rfl
  unfold readSection
  rw [exec_bind_of_ok hread]
  cases s.file path with
  | error cause => cases cause <;> rfl
  | ok bytes =>
    dsimp only
    cases read path bytes <;> rfl

variable {path path' name : Text} {vs : Values} {s s' : Machine} {l l' : Layout}

/-- The program reads a section in the same way, with the values as a result. -/
theorem run_readSection (path name : Text) (vs : Values) (s : Machine) :
    (Config.readSection path name vs : Attempt (StateM Machine) _).run.run s =
      (((readSection path name).exec vs s).1.1.map fun isThere =>
        (((readSection path name).exec vs s).1.2, isThere), s) := by
  have hread : (liftM (Host.read path : StateM Machine _) :
      Attempt (StateM Machine) _).run.run s = (.ok (s.file path), s) := rfl
  unfold Config.readSection
  rw [exec_readSection, ExceptT.run_bind, StateT.run_bind, hread]
  cases s.file path with
  | error cause => cases cause <;> rfl
  | ok bytes =>
    change (show Attempt (StateM Machine) (Values × Bool) from match read path bytes with
      | .error e => throw e
      | .ok sections => return (vs.putAll ((sections.lookup name).getD []), true)).run.run s = _
    dsimp only
    cases read path bytes <;> rfl

/-- Nothing is changed unless a section is read. -/
theorem exec_readSection_of_ne (h : ((readSection path name).exec vs s).1.1 ≠ .ok true) :
    (readSection path name).exec vs s = ((((readSection path name).exec vs s).1.1, vs), s) := by
  rw [exec_readSection] at h ⊢
  cases hfile : s.file path with
  | error cause => cases cause <;> rfl
  | ok bytes =>
    rw [hfile] at h
    dsimp only at h ⊢
    cases hread : read path bytes with
    | error e => rfl
    | ok sections =>
      rw [hread] at h
      exact absurd rfl h

theorem exec_readSection_of_layout (h : s.HasLayout path l) (name : Text) (vs : Values) :
    (readSection path name).exec vs s = match l.values with
      | .error e => ((.error e, vs), s)
      | .ok sections => ((.ok true, vs.putAll ((sections.lookup name).getD [])), s) := by
  obtain ⟨text, hfile, hlayout⟩ := h
  rw [exec_readSection, hfile]
  dsimp only
  rw [read_of_layout hlayout]

theorem exists_exec_of_evaluates (h : s.HasLayout path l) (hvalues : l.Evaluates) (name : Text)
    (vs : Values) :
    ∃ own, (l.settingsOf name).mapM evaluateSetting = .ok own ∧
      (readSection path name).exec vs s = ((.ok true, vs.putAll own), s) := by
  obtain ⟨sections, hsections⟩ := l.evaluates_iff.mp hvalues
  have hexec := exec_readSection_of_layout h name vs
  rw [hsections] at hexec
  exact ⟨_, Layout.mapM_settingsOf hsections name, hexec⟩

/-- From a file that is laid out right and whose settings can all be evaluated, a section takes the
values of its own settings and of the defaults, and what other sections hold makes no difference.
The first setting that cannot be evaluated, of whatever section, makes the reading fail. Then the
values are as they were, and so they are after any other failure and without a file. -/
theorem readSection_own_settings (path name : Text) (vs : Values) (s : Machine) :
    let run := (readSection path name).exec vs s
    (Config.readSection path name vs : Attempt (StateM Machine) _).run.run s =
        (run.1.1.map fun isThere => (run.1.2, isThere), s) ∧
    (run.1.1 ≠ .ok true → run = ((run.1.1, vs), s)) ∧
    ∀ l, s.HasLayout path l →
      ((l.Evaluates ∧ ∃ own, (l.settingsOf name).mapM evaluateSetting = .ok own ∧
          run = ((.ok true, vs.putAll own), s) ∧
          ∀ option, run.1.2.get? option = match (l.settingsOf name).lookup option with
            | some t => (evaluate t).toOption
            | none => vs.get? option) ∨
        ∃ e, FailsFirst l.allSettings e ∧
          (e = .type ∨ e = .tooNested ∨ e = .tooHigh ∨ e = .tooLarge ∨ e = .surrogates) ∧
          run = ((.error e, vs), s)) ∧
      ∀ path' s' l', s'.HasLayout path' l' → l.section? name = l'.section? name →
        l.defaults = l'.defaults → l.Evaluates → l'.Evaluates →
        ((readSection path' name).exec vs s').1 = run.1 := by
  intro run
  refine ⟨run_readSection path name vs s, exec_readSection_of_ne, fun l hl => ⟨?_, ?_⟩⟩
  · rcases l.values_cases with ⟨-, -, hvalues⟩ | ⟨e, hfirst, hfail⟩
    · obtain ⟨own, hown, hrun⟩ := exists_exec_of_evaluates hl hvalues name vs
      refine Or.inl ⟨hvalues, own, hown, hrun, fun option => ?_⟩
      obtain ⟨text, -, hlayout⟩ := hl
      have hnames := (Layout.namesOnce_of_layout hlayout).nodup_settingsOf name
      change ((readSection path name).exec vs s).1.2.get? option = _
      rw [hrun]
      exact get?_putAll_of_evaluateSetting hown hnames vs option
    · have hrun := exec_readSection_of_layout hl name vs
      rw [hfail] at hrun
      obtain ⟨setting, -, he⟩ := hfirst.exists_error
      exact Or.inr ⟨e, hfirst, evaluate_eq_error he, hrun⟩
  · intro path' s' l' hl' hsection hdefaults hvalues hvalues'
    have hsettings : l.settingsOf name = l'.settingsOf name := by
      unfold Layout.settingsOf Layout.settings
      rw [hsection, hdefaults]
    obtain ⟨own, hown, hrun⟩ := exists_exec_of_evaluates hl hvalues name vs
    obtain ⟨own', hown', hrun'⟩ := exists_exec_of_evaluates hl' hvalues' name vs
    obtain rfl : own = own' := Except.ok.inj (hown.symm.trans (hsettings ▸ hown'))
    change _ = ((readSection path name).exec vs s).1
    rw [hrun, hrun']

/-- A machine with one configuration file. -/
def configMachine (content : Text) : Machine :=
  .ofTree ⟨[(["c.cfg"], .file (Utf8.encode content))]⟩ "/root" "/package" [] "[now]: "

theorem hasLayout_configMachine (h : layout (fileLines (Text.unifyNewlines text)) = .ok l) :
    (configMachine text).HasLayout "c.cfg" l :=
  ⟨text, rfl, h⟩

/-- Two files with other settings in another section, and a path without a file. -/
theorem readSection_own_settings_twice :
    let s := configMachine "[DEFAULT]\nb = x\n[other]\na = [2]\n[collator]\na = 1\n"
    let s' := configMachine "[collator]\na: 1\n[DEFAULT]\nb: x\n[other]\nc = None\n"
    let vs : Values := [("a", .none)]
    ∃ l l', s.HasLayout "c.cfg" l ∧ s'.HasLayout "c.cfg" l' ∧ l ≠ l' ∧
      l.section? "collator" = l'.section? "collator" ∧ l.defaults = l'.defaults ∧
      l.Evaluates ∧ l'.Evaluates ∧
      ((readSection "c.cfg" "collator").exec vs s').1 =
        ((readSection "c.cfg" "collator").exec vs s).1 ∧
      (readSection "d.cfg" "collator").exec vs s = ((.ok false, vs), s) := by
  intro s s' vs
  let l : Layout := ⟨[("b", ["x"])], [⟨"other", [("a", ["[2]"])]⟩, ⟨"collator", [("a", ["1"])]⟩]⟩
  let l' : Layout := ⟨[("b", ["x"])], [⟨"collator", [("a", ["1"])]⟩, ⟨"other", [("c", ["None"])]⟩]⟩
  have hl : s.HasLayout "c.cfg" l := hasLayout_configMachine (by decide +kernel)
  have hl' : s'.HasLayout "c.cfg" l' := hasLayout_configMachine (by decide +kernel)
  have hvalues : l.Evaluates := l.evaluates_iff.mpr ⟨_, rfl⟩
  have hvalues' : l'.Evaluates := l'.evaluates_iff.mpr ⟨_, rfl⟩
  have hmissing : ((readSection "d.cfg" "collator").exec vs s).1.1 = .ok false := rfl
  obtain ⟨-, -, hrun⟩ := readSection_own_settings "c.cfg" "collator" vs s
  obtain ⟨-, hunchanged, -⟩ := readSection_own_settings "d.cfg" "collator" vs s
  rw [hmissing] at hunchanged
  exact ⟨l, l', hl, hl', by decide, rfl, rfl, hvalues, hvalues',
    (hrun l hl).2 "c.cfg" s' l' hl' rfl rfl hvalues hvalues', hunchanged nofun⟩

/-- A section that nobody asked for, with a list in a set, which can have no lists in it. -/
theorem readSection_fails_for_other_section :
    let s := configMachine "[collator]\na = 1\n[other]\nb = \x7b[]\x7d\n"
    let s' := configMachine "[collator]\na = 1\n[other]\nb = 2\n"
    ∃ l l', s.HasLayout "c.cfg" l ∧ s'.HasLayout "c.cfg" l' ∧
      l.section? "collator" = l'.section? "collator" ∧ l.defaults = l'.defaults ∧
      ((readSection "c.cfg" "collator").exec [] s).1 = (.error .type, []) ∧
      ((readSection "c.cfg" "collator").exec [] s').1 =
        (.ok true, ([("a", .int 1)] : Values)) := by
  intro s s'
  let own : Section := ⟨"collator", [("a", ["1"])]⟩
  let l : Layout := ⟨[], [own, ⟨"other", [("b", ["\x7b[]\x7d"])]⟩]⟩
  let l' : Layout := ⟨[], [own, ⟨"other", [("b", ["2"])]⟩]⟩
  have hl : s.HasLayout "c.cfg" l := hasLayout_configMachine (by decide +kernel)
  have hl' : s'.HasLayout "c.cfg" l' := hasLayout_configMachine (by decide +kernel)
  have hvalues : l.values = .error .type := by rfl
  have hvalues' : l'.values =
      .ok [("collator", [("a", .int 1)]), ("other", [("b", .int 2)])] := by rfl
  refine ⟨l, l', hl, hl', rfl, rfl, ?_, ?_⟩
  · rw [exec_readSection_of_layout hl, hvalues]
  · rw [exec_readSection_of_layout hl', hvalues']
    rfl

end InPlace

end Collation.Config
