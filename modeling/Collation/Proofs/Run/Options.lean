import Collation.Proofs.Path.PrefixRules
import Collation.Proofs.Run.Outcome

/-! What options come to in a run: the command line, the paths that options give, the configuration
file, and the log. -/

namespace Collation

namespace OptionStore

/-- The text that an option or a constant has, if its value is a text. -/
def text? (o : OptionStore) (name : Text) : Option Text :=
  match o.get name with
  | .ok (.text t) => some t
  | _ => none

variable {o : OptionStore} {name t : Text}

theorem get_of_text? (h : o.text? name = some t) : o.get name = .ok (.text t) := by
  unfold text? at h
  split at h
  · rename_i t' hget
    obtain rfl : t' = t := Option.some.inj h
    exact hget
  · cases h

end OptionStore

/-- The logger of an application that has no log file. -/
def Logger.messagesOnly : Logger :=
  .ofStreams [.messages] [] .time (some repeatSign)

/-- The signs that stand for directories on a machine. -/
def Machine.pathRules (s : Machine) : Path.PrefixRules :=
  (Path.PrefixRules.add [] OptionStore.packageSign s.packagePath).add OptionStore.userSign
    (Path.userData s.homePath OptionStore.dataName)

theorem Machine.mem_pathRules {s : Machine} {rule : Path.PrefixRule} : rule ∈ s.pathRules ↔
    rule = ⟨OptionStore.packageSign, Path.normal s.packagePath⟩ ∨
    rule = ⟨OptionStore.userSign,
      Path.normal (Path.userData s.homePath OptionStore.dataName)⟩ := by
  simp only [pathRules, Path.PrefixRules.add, List.mem_mergeSort, List.mem_append,
    List.mem_singleton, List.nil_append]

theorem Machine.convert_of_no_sign {path : Text} (s : Machine)
    (hpackage : OptionStore.packageSign.isPrefixOf path = false)
    (huser : OptionStore.userSign.isPrefixOf path = false) : s.pathRules.convert path = path := by
  refine Path.PrefixRules.convert_of_no_sign fun rule hrule => ?_
  rcases mem_pathRules.mp hrule with rfl | rfl
  · exact hpackage
  · exact huser

namespace Program

variable {o : OptionStore} {name t : Text} {v : Value} {a : App} {s : Machine} {argv : List Text}
  {e : Failure} {text : Text}

/-! What is set up by a command line that can be read, cannot be read, or asks for help. -/

theorem exec_setup_ok (h : a.options.parse argv = .ok o) :
    (setup argv).exec a s = exec (do
      modify ({ · with options := o })
      let loaded ← o.loadConfig
      modify ({ · with options := loaded.1 })) a s := by
  unfold setup
  rw [exec_bind, exec_get]
  simp only [Outcome.next, h]

theorem exec_setup_failure (h : a.options.parse argv = .error (.failure e)) :
    (setup argv).exec a s = ⟨.error e, a, s⟩ := by
  unfold setup
  rw [exec_bind, exec_get]
  simp only [Outcome.next, h]
  rfl

theorem exec_setup_help (h : a.options.parse argv = .error (.help text)) :
    (setup argv).exec a s = (exec (Host.put .output text) a s).next fun _ b t =>
      ⟨.error .helpShown, b, t⟩ := by
  unfold setup
  rw [exec_bind, exec_get]
  simp only [Outcome.next, h]
  exact exec_bind _ _ a s

theorem exec_path (h : o.get name = .ok (.text t)) (a : App) (s : Machine) :
    exec (o.path name) a s = ⟨.ok (s.pathRules.convert t), a, s⟩ := by
  unfold OptionStore.path
  rw [h]
  rfl

/-- There is no configuration file without a path. -/
theorem exec_loadConfig_of_no_config (h : o.get "config" = .ok (.text [])) (a : App) (s : Machine) :
    exec o.loadConfig a s = ⟨.ok (o, false), a, s⟩ := by
  have hpath : exec o.configPath a s = ⟨.ok [], a, s⟩ := by
    unfold OptionStore.configPath
    rw [exec_path h, s.convert_of_no_sign rfl rfl]
  unfold OptionStore.loadConfig
  rw [exec_bind_of_ok hpath]
  rfl

theorem exec_setup_of_no_config (hparse : a.options.parse argv = .ok o)
    (h : o.get "config" = .ok (.text [])) :
    (setup argv).exec a s = ⟨.ok (), { a with options := o }, s⟩ := by
  rw [exec_setup_ok hparse, exec_bind_of_ok (exec_modify _ a s),
    exec_bind_of_ok (exec_loadConfig_of_no_config h _ s)]
  rfl

/-- The logger is opened with the path of the log. -/
theorem exec_logger_of_none (ha : a.logger = none) :
    logger.exec a s = exec (do
      let path ← a.options.logPath
      let l ← Logger.openLogger [path] false true .time (some Logger.repeatSign)
      modify ({ · with logger := some l })
      return l) a s := by
  unfold logger
  rw [exec_bind_of_ok (exec_get a s), ha]
  dsimp only
  rw [exec_bind_of_ok (exec_get a s)]

/-- Directories are made on the way to the log. -/
theorem exec_logPath (h : o.get "log" = .ok (.text t)) (ht : t ≠ []) (a : App) (s : Machine) :
    exec o.logPath a s = exec (do
      Host.makeWay (s.pathRules.convert t)
      return s.pathRules.convert t) a s := by
  have htruthy : (Value.text t).isTruthy = true := by
    cases t with
    | nil => exact absurd rfl ht
    | cons c t => rfl
  unfold OptionStore.logPath
  rw [h]
  dsimp only
  rw [if_pos htruthy, exec_bind_of_ok (exec_path h a s)]

/-- Without a log file, messages alone are logged. -/
theorem exec_logger_messages (ha : a.logger = none) (h : a.options.get "log" = .ok v)
    (hv : v.isTruthy = false) :
    logger.exec a s = ⟨.ok Logger.messagesOnly, { a with logger := some .messagesOnly }, s⟩ := by
  have hpath : exec a.options.logPath a s = ⟨.ok [], a, s⟩ := by
    unfold OptionStore.logPath
    rw [h]
    dsimp only
    rw [hv]
    rfl
  rw [exec_logger_of_none ha, exec_bind_of_ok hpath]
  rfl

theorem exec_logger_of_no_log (ha : a.logger = none) (h : a.options.get "log" = .ok v)
    (hv : v.isTruthy = false) : ∃ l b, logger.exec a s = ⟨.ok l, b, s⟩ :=
  ⟨_, _, exec_logger_messages ha h hv⟩

end Program

end Collation
