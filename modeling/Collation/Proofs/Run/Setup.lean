import Collation.Proofs.Option.Values
import Collation.Proofs.Result
import Collation.Proofs.Run.Options

/-! What a run reads before it does anything: the settings of a configuration file, the rule text and
the table, as functions of the options and the machine. Nothing of this changes the machine. -/

namespace Collation

namespace Machine

variable (s : Machine)

def file (path : Text) : Except FileCause (List UInt8) :=
  s.tree.read s.current path

/-- The text of a file, with every line end as a line feed. -/
def fileText (path : Text) : Except Failure Text :=
  match s.file path with
  | .error cause => .error (.file cause path)
  | .ok bytes => ((Utf8.decode bytes).mapError .encoding).map Text.unifyNewlines

variable {s} in
theorem fileText_eq_ok {path content : Text} (h : s.fileText path = .ok content) :
    ∃ bytes t, s.file path = .ok bytes ∧ Utf8.decode bytes = .ok t ∧
      content = Text.unifyNewlines t := by
  unfold fileText at h
  split at h
  · contradiction
  · next bytes hfile =>
    obtain ⟨t, ht, hcontent⟩ := map_eq_ok h
    exact ⟨bytes, t, hfile, mapError_eq_ok ht, hcontent.symm⟩

/-- The settings of the program in a configuration file, which may be missing. -/
def settings (path : Text) : Except Failure Config.Values :=
  match s.file path with
  | .error .notFound => .ok []
  | .error cause => .error (.file cause path)
  | .ok bytes => (Config.read path bytes).map fun sections =>
      Config.Values.putAll [] ((sections.lookup OptionStore.configSection).getD [])

variable {s} in
/-- No setting comes twice. -/
theorem last?_of_settings {path : Text} {vs : Config.Values} (h : s.settings path = .ok vs)
    (name : Text) : vs.last? name = vs.get? name := by
  apply Config.Values.last?_of_nodup
  unfold settings at h
  split at h
  · obtain rfl := Except.ok.inj h
    exact List.nodup_nil
  · contradiction
  · obtain ⟨sections, -, rfl⟩ := map_eq_ok h
    exact Config.Values.nodup_names_putAll (by simp) _

end Machine

namespace OptionStore

variable (o : OptionStore)

def pathOn (name : Text) (s : Machine) : Except Failure Text :=
  match o.get name with
  | .error e => .error e
  | .ok (.text t) => .ok (s.pathRules.convert t)
  | .ok (.bytes _) => .error .type
  | .ok v => .error (.noAttribute v.kindName "startswith")

variable {o} in
theorem pathOn_of_text {name t : Text} (h : o.get name = .ok (.text t)) (s : Machine) :
    o.pathOn name s = .ok (s.pathRules.convert t) := by
  unfold pathOn
  rw [h]

/-- What the configuration file sets. -/
def settingsOn (s : Machine) : Except Failure Config.Values :=
  (o.pathOn "config" s).bind s.settings

/-- The options with what the configuration file sets for them. -/
def configured (s : Machine) : Except Failure OptionStore :=
  (o.settingsOn s).map o.updateDefaults

/-- The rule text that is given, or else that of the rule file. -/
def rulesOn (s : Machine) : Except Failure Value :=
  (o.get "rules").bind fun given =>
    if given.isTruthy then .ok given
    else (o.pathOn "rules_file" s).bind fun path =>
      (s.fileText path).map fun content => .text (Rule.decodeFile Rule.commentSign content)

variable {o} in
theorem rulesOn_of_text {text : Text} {s : Machine} (h : o.get "rules" = .ok (.text text))
    (hne : text ≠ []) : o.rulesOn s = .ok (.text text) := by
  have htruthy : (Value.text text).isTruthy = true := by
    obtain ⟨c, text, rfl⟩ := List.exists_cons_of_ne_nil hne
    rfl
  unfold rulesOn
  rw [h]
  exact if_pos htruthy

/-- The tailoring of a rule text under the form that is set. -/
def tailoringOf (rules : Value) : Except Failure Tailoring :=
  o.form.bind fun form => App.tailoringOf form rules

def collatorOf (t : Tailoring) : Except Failure Collator :=
  o.strength.bind fun s => (o.get "processes").map fun processes => ⟨t, s, processes⟩

variable {o} in
theorem last?_of_settingsOn {s : Machine} {vs : Config.Values} (h : o.settingsOn s = .ok vs)
    (name : Text) : vs.last? name = vs.get? name := by
  obtain ⟨path, -, hsettings⟩ := bind_eq_ok h
  exact Machine.last?_of_settings hsettings name

variable {o} in
theorem settingsOn_of_path {s : Machine} {path : Text} {vs : Config.Values}
    (hpath : o.pathOn "config" s = .ok path) (hsettings : s.settings path = .ok vs) :
    o.settingsOn s = .ok vs := by
  rw [settingsOn, hpath]
  exact hsettings

/-- What a command line and the configuration file that it names come to. -/
theorem exists_of_settings {description : Text} {argv : List Text} {s : Machine} {β : Type} {b : β}
    (path : Text) (f : OptionStore → Config.Values → β)
    (hargv : ((standard description).parse argv).toOption.map (text? · "config") = some (some path))
    (hpackage : packageSign.isPrefixOf path = false) (huser : userSign.isPrefixOf path = false)
    (hsettings : ((standard description).parse argv).toOption.bind
      (fun o => (s.settings path).toOption.map (f o)) = some b) :
    ∃ o vs, (standard description).parse argv = .ok o ∧ o.pathOn "config" s = .ok path ∧
      s.settings path = .ok vs ∧ f o vs = b := by
  obtain ⟨o, ho, hconfig⟩ := exists_of_toOption hargv
  obtain ⟨o', ho', hrest⟩ := Option.bind_eq_some_iff.mp hsettings
  obtain ⟨vs, hvs, hf⟩ := exists_of_toOption hrest
  obtain rfl : o = o' := Except.ok.inj (ho.symm.trans (eq_ok_of_toOption ho'))
  have hpath : o.pathOn "config" s = .ok path := by
    rw [pathOn_of_text (get_of_text? hconfig), s.convert_of_no_sign hpackage huser]
  exact ⟨o, vs, ho, hpath, hvs, hf⟩

end OptionStore

namespace Program

variable {o : OptionStore} {name path : Text} {a : App} {s : Machine} {argv : List Text}

theorem exec_path_eq (o : OptionStore) (name : Text) (a : App) (s : Machine) :
    exec (o.path name) a s = ⟨o.pathOn name s, a, s⟩ := by
  unfold OptionStore.path OptionStore.pathOn
  cases o.get name with
  | error e => rfl
  | ok v => cases v <;> rfl

theorem exec_readText (path : Text) (a : App) (s : Machine) :
    exec (Host.readText path) a s = ⟨s.fileText path, a, s⟩ := by
  have hread : exec (Host.attemptFile path (Host.read path : StateT App (StateM Machine) _)) a s =
      ⟨(s.file path).mapError fun cause => .file cause path, a, s⟩ := by
    unfold Host.attemptFile
    have hlift : exec (liftM (Host.read path : StateT App (StateM Machine) _)) a s =
      ⟨.ok (s.file path), a, s⟩ := rfl
    rw [exec_bind_of_ok hlift]
    cases s.file path <;> rfl
  unfold Host.readText Machine.fileText
  rw [exec_bind, hread]
  cases s.file path with
  | error cause => rfl
  | ok bytes =>
    unfold Host.attemptText
    simp only [mapError_ok, Outcome.next]
    cases Utf8.decode bytes <;> rfl

theorem exec_readSection (path : Text) (a : App) (s : Machine) :
    exec (Config.readSection path OptionStore.configSection []) a s =
      ⟨(s.settings path).map fun vs => (vs, (s.file path).toOption.isSome), a, s⟩ := by
  have hread : exec (liftM (Host.read path : StateT App (StateM Machine) _)) a s =
      ⟨.ok (s.file path), a, s⟩ := rfl
  unfold Config.readSection Machine.settings
  rw [exec_bind_of_ok hread]
  cases s.file path with
  | error cause => cases cause <;> rfl
  | ok bytes => cases h : Config.read path bytes <;> simp [h] <;> rfl

/-- Setting up leaves options behind that are those of the command line and of the configuration
file, in this order of rank. -/
theorem exec_setup (h : a.options.parse argv = .ok o) :
    (setup argv).exec a s = match o.configured s with
      | .ok o' => ⟨.ok (), { a with options := o' }, s⟩
      | .error e => ⟨.error e, { a with options := o }, s⟩ := by
  rw [exec_setup_ok h, exec_bind_of_ok (exec_modify _ a s)]
  unfold OptionStore.loadConfig OptionStore.configPath OptionStore.configured OptionStore.settingsOn
  rw [exec_bind, exec_bind, exec_path_eq]
  cases o.pathOn "config" s with
  | error e => rfl
  | ok path =>
    simp only [Outcome.next, Except.bind]
    rw [exec_bind, exec_readSection]
    cases s.settings path with
    | error e => rfl
    | ok vs => rfl

theorem exec_ruleText (ha : a.rules = none) :
    ruleText.exec a s = match a.options.rulesOn s with
      | .ok v => ⟨.ok v, { a with rules := some v }, s⟩
      | .error e => ⟨.error e, a, s⟩ := by
  unfold ruleText OptionStore.rulesOn
  rw [exec_bind_of_ok (exec_get a s), ha]
  dsimp only
  rw [exec_bind_of_ok (exec_get a s)]
  cases a.options.get "rules" with
  | error e => rfl
  | ok given =>
    simp only [Except.bind]
    have hgiven : exec (ofExcept (Except.ok given)) a s = ⟨.ok given, a, s⟩ := rfl
    rw [exec_bind_of_ok hgiven]
    split
    · rfl
    · unfold OptionStore.rulesPath
      rw [exec_bind, exec_path_eq]
      cases a.options.pathOn "rules_file" s with
      | error e => rfl
      | ok path =>
        simp only [Outcome.next]
        rw [exec_bind, exec_readText]
        cases s.fileText path with
        | error e => rfl
        | ok content => rfl

/-- Setting up with a configuration file that can be read. -/
theorem exec_setup_of_settings {vs : Config.Values} (hparse : a.options.parse argv = .ok o)
    (hconfig : o.settingsOn s = .ok vs) :
    (setup argv).exec a s = ⟨.ok (), { a with options := o.updateDefaults vs }, s⟩ := by
  rw [exec_setup hparse, OptionStore.configured, hconfig]
  rfl

/-- The rule text of an application that has just been set up. -/
theorem result_setup_ruleText {vs : Config.Values} (hparse : a.options.parse argv = .ok o)
    (hconfig : o.settingsOn s = .ok vs) (ha : a.rules = none) :
    (exec (do setup argv; ruleText) a s).result = (o.updateDefaults vs).rulesOn s := by
  have hrules := exec_ruleText (a := { a with options := o.updateDefaults vs }) (s := s) ha
  rw [exec_bind_of_ok (exec_setup_of_settings hparse hconfig), hrules]
  cases (o.updateDefaults vs).rulesOn s <;> rfl

/-- The table is made before it is logged, and kept only if it could be. -/
theorem exec_tailoring (ht : a.tailoring = none) (ha : a.rules = none) :
    tailoring.exec a s = match a.options.rulesOn s with
      | .error e => ⟨.error e, a, s⟩
      | .ok v => match a.options.tailoringOf v with
        | .error e => ⟨.error e, { a with rules := some v }, s⟩
        | .ok t => ((log (App.loadedMessage t.table)).exec { a with rules := some v } s).next
            fun _ b u => ⟨.ok t, { b with tailoring := some t }, u⟩ := by
  unfold tailoring
  conv_lhs => rw [exec_bind_of_ok (exec_get a s), ht]
  dsimp only
  rw [exec_bind, exec_ruleText ha]
  cases a.options.rulesOn s with
  | error e => rfl
  | ok v =>
    unfold OptionStore.tailoringOf
    simp only [Outcome.next]
    rw [exec_bind_of_ok (exec_get _ s), exec_bind]
    cases a.options.form with
    | error e => rfl
    | ok form =>
      have hform : exec (ofExcept (Except.ok form)) { a with rules := some v } s =
        ⟨.ok form, { a with rules := some v }, s⟩ := rfl
      simp only [hform, Outcome.next, Except.bind]
      rw [exec_bind]
      cases App.tailoringOf form v with
      | error e => rfl
      | ok t =>
        have ht : exec (ofExcept (Except.ok t)) { a with rules := some v } s =
          ⟨.ok t, { a with rules := some v }, s⟩ := rfl
        simp only [ht, Outcome.next]
        rw [exec_bind]
        rfl

theorem exec_collator (ha : a.collator = none) :
    collator.exec a s = (tailoring.exec a s).next fun t b u =>
      match b.options.collatorOf t with
      | .error e => ⟨.error e, b, u⟩
      | .ok c => ⟨.ok c, { b with collator := some c }, u⟩ := by
  unfold collator
  rw [exec_bind_of_ok (exec_get a s), ha]
  dsimp only
  rw [exec_bind]
  congr 1
  funext t b u
  unfold OptionStore.collatorOf
  rw [exec_bind_of_ok (exec_get b u)]
  cases hs : b.options.strength with
  | error e => rfl
  | ok st =>
    have hst : exec (ofExcept (Except.ok st)) b u = ⟨.ok st, b, u⟩ := rfl
    rw [exec_bind_of_ok hst]
    cases b.options.get "processes" with
    | error e => rfl
    | ok v => rfl

end Program

end Collation
