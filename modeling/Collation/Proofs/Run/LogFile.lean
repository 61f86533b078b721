import Collation.Proofs.File.Way
import Collation.Proofs.Run.Local

/-! The log file. It is there once a log has been opened, and a log whose file is there can be
opened. -/

namespace Collation

/-- The same machine later on. Directories and files are still there, whatever the files hold. -/
structure Machine.Keeps (s t : Machine) : Prop where
  tree : s.tree.Keeps t.tree
  current : t.current = s.current
  homePath : t.homePath = s.homePath
  packagePath : t.packagePath = s.packagePath

variable {s t u : Machine} {a b : App} {o : OptionStore} {path name : Text} {l : Logger}

namespace Machine

theorem Extends.keeps (h : s.Extends t) : s.Keeps t :=
  ⟨h.tree.keeps, h.current, h.homePath, h.packagePath⟩

theorem Keeps.trans (h : s.Keeps t) (h' : t.Keeps u) : s.Keeps u :=
  ⟨h.tree.trans h'.tree, h'.current.trans h.current, h'.homePath.trans h.homePath,
    h'.packagePath.trans h.packagePath⟩

theorem Keeps.pathRules (h : s.Keeps t) : t.pathRules = s.pathRules := by
  unfold Machine.pathRules
  rw [h.homePath, h.packagePath]

/-- Whether there is a file at a path that can be opened. -/
def HasFile (path : Text) (s : Machine) : Prop :=
  path.getLast? ≠ some '/' ∧ ∃ r content, s.tree.route s.current path = .ok r ∧
    s.tree.node? r = some (.file content)

theorem HasFile.of_keeps (h : s.HasFile path) (hkeeps : s.Keeps t) : t.HasFile path := by
  obtain ⟨hlast, r, content, hroute, hnode⟩ := h
  obtain ⟨content', hcontent⟩ := hkeeps.tree.file hnode
  refine ⟨hlast, r, content', ?_, hcontent⟩
  rw [hkeeps.current]
  exact hkeeps.tree.route hroute

theorem hasFile_of_openEnd {stream : Stream} (h : (s.openEnd path).1 = .ok stream) :
    (s.openEnd path).2.HasFile path := by
  unfold openEnd at h ⊢
  cases hopen : s.tree.openEnd s.current path with
  | error cause =>
    rw [hopen] at h
    contradiction
  | ok opened =>
    obtain ⟨r, tree⟩ := opened
    obtain ⟨hgrows, -, hlast, hroute, content, hnode⟩ := FileTree.openEnd_eq_ok hopen
    exact ⟨hlast, r, content, hgrows.keeps.route hroute, hnode⟩

theorem openEnd_of_hasFile (h : s.HasFile path) : ∃ stream, (s.openEnd path).1 = .ok stream := by
  obtain ⟨hlast, r, content, hroute, hnode⟩ := h
  obtain ⟨hcheck, -⟩ := FileTree.route_eq_ok hroute
  have hopen : s.tree.openEnd s.current path = .ok (r, s.tree) := by
    unfold FileTree.openEnd
    rw [hcheck]
    change (if path.getLast? = some '/' then _ else _) = _
    rw [if_neg hlast, hroute]
    change (pure r >>= _) = _
    rw [pure_bind, hnode]
  unfold openEnd
  rw [hopen]
  exact ⟨_, rfl⟩

end Machine

/-! Paths are converted to paths that are not empty. -/

theorem Machine.convert_ne_nil (s : Machine) (h : path ≠ []) : s.pathRules.convert path ≠ [] := by
  unfold Path.PrefixRules.convert
  split
  · next rule hrule =>
    apply Path.join_ne_nil
    rcases Machine.mem_pathRules.mp (List.mem_of_find?_eq_some hrule) with rfl | rfl
    · exact Path.normal_ne_nil _
    · exact Path.normal_ne_nil _
  · exact h

/-! Directories on the way to a file that is there need not be made. -/

namespace Host

open Program

theorem exec_makeLast_of_directory (h : s.tree.lookUp s.current path = some .directory) (a : App) :
    ∃ t, exec (makeLast path) a s = ⟨.ok (), a, t⟩ := by
  have hmake : exec (liftM (Host.makeDirectory path : StateT App (StateM Machine) _)) a s =
      ⟨.ok (s.makeDirectory path).1, a, (s.makeDirectory path).2⟩ := rfl
  unfold makeLast
  rw [exec_bind_of_ok hmake]
  unfold Machine.makeDirectory
  cases s.tree.makeDirectory s.current path with
  | ok tree => exact ⟨_, rfl⟩
  | error cause =>
    have hthere : exec (liftM (Host.isDirectory path : StateT App (StateM Machine) _)) a s =
        ⟨.ok true, a, s⟩ := by
      have hlook : exec (liftM (Host.isDirectory path : StateT App (StateM Machine) _)) a s =
        ⟨.ok (s.tree.lookUp s.current path == some .directory), a, s⟩ := rfl
      rw [hlook, h]
      rfl
    refine ⟨s, ?_⟩
    dsimp only
    rw [exec_bind_of_ok hthere]
    rfl

theorem exec_makeDirectories_of_directory (h : s.tree.lookUp s.current path = some .directory)
    (a : App) : ∃ t, exec (makeDirectories path) a s = ⟨.ok (), a, t⟩ := by
  unfold makeDirectories
  rw [makeDirectoriesWithin]
  generalize hcut : (if (Path.lastName path).isEmpty then Path.parent path else path) = trimmed
  split
  · exact exec_makeLast_of_directory h a
  · next hparts =>
    have hparent : Path.parent trimmed ≠ [] := by
      intro hnil
      apply hparts
      rw [hnil]
      rfl
    have htrimmed : s.tree.lookUp s.current trimmed = some .directory := by
      by_cases hlast : (Path.lastName path).isEmpty = true
      · rw [if_pos hlast] at hcut
        obtain ⟨r, hroute⟩ := FileTree.exists_route_of_lookUp h
        rw [← hcut]
        apply FileTree.lookUp_parent hroute
        intro hnil
        apply hparent
        rw [← hcut, hnil]
        rfl
      · rw [if_neg hlast] at hcut
        rw [← hcut]
        exact h
    obtain ⟨r, hroute⟩ := FileTree.exists_route_of_lookUp htrimmed
    have hthere : exec (liftM (Host.isThere (Path.parent trimmed) :
        StateT App (StateM Machine) _)) a s = ⟨.ok true, a, s⟩ := by
      have hlook : exec (liftM (Host.isThere (Path.parent trimmed) :
          StateT App (StateM Machine) _)) a s =
        ⟨.ok (s.tree.lookUp s.current (Path.parent trimmed)).isSome, a, s⟩ := rfl
      rw [hlook, FileTree.lookUp_parent hroute hparent]
      rfl
    rw [exec_bind_of_ok hthere]
    exact exec_makeLast_of_directory h a

theorem exec_makeWay_of_hasFile (h : s.HasFile path) (a : App) :
    ∃ t, exec (makeWay path) a s = ⟨.ok (), a, t⟩ := by
  obtain ⟨-, r, content, hroute, -⟩ := h
  unfold makeWay
  extract_lets directory
  apply exec_makeDirectories_of_directory
  by_cases hempty : directory = []
  · rw [if_pos (by rw [hempty]; rfl)]
    exact FileTree.lookUp_dot hroute hempty
  · rw [if_neg (by simpa using hempty)]
    exact FileTree.lookUp_parent hroute hempty

end Host

/-! What opening a log leaves behind is what it needs. -/

/-- The log file of the options is there, if they ask for one. -/
def OptionStore.HasLog (o : OptionStore) (s : Machine) : Prop :=
  ∃ v, o.get "log" = .ok v ∧
    (v.isTruthy = true → ∃ path, o.pathOn "log" s = .ok path ∧ s.HasFile path)

theorem OptionStore.HasLog.of_keeps (h : o.HasLog s) (hkeeps : s.Keeps t) : o.HasLog t := by
  obtain ⟨v, hget, hfile⟩ := h
  refine ⟨v, hget, fun htruthy => ?_⟩
  obtain ⟨path, hpath, hfile⟩ := hfile htruthy
  refine ⟨path, ?_, hfile.of_keeps hkeeps⟩
  unfold pathOn at hpath ⊢
  rw [hkeeps.pathRules]
  exact hpath

namespace Program

theorem exec_openEnd (path : Text) (a : App) (s : Machine) :
    exec (Host.attemptFile path (Host.openEnd path : StateT App (StateM Machine) _)) a s =
      ⟨(s.openEnd path).1.mapError fun cause => .file cause path, a, (s.openEnd path).2⟩ := by
  unfold Host.attemptFile
  have hopen : exec (liftM (Host.openEnd path : StateT App (StateM Machine) _)) a s =
    ⟨.ok (s.openEnd path).1, a, (s.openEnd path).2⟩ := rfl
  rw [exec_bind_of_ok hopen]
  cases (s.openEnd path).1 <;> rfl

/-- A path of an option with a value is not empty. -/
theorem ne_nil_of_pathOn {v : Value} (hget : o.get name = .ok v) (htruthy : v.isTruthy = true)
    (h : o.pathOn name s = .ok path) : path ≠ [] := by
  unfold OptionStore.pathOn at h
  rw [hget] at h
  cases v with
  | text t =>
    obtain rfl := Except.ok.inj h
    apply s.convert_ne_nil
    rintro rfl
    exact absurd htruthy (by decide)
  | _ => contradiction

theorem hasLog_of_openLog (h : (openLog o).exec a s = ⟨.ok l, b, t⟩) : o.HasLog t := by
  obtain ⟨path, a₁, s₁, hpath, hopen⟩ := exec_bind_eq_ok h
  have hgrows := (local_logPath o a a s).2
  rw [hpath] at hgrows
  unfold OptionStore.logPath at hpath
  split at hpath
  · cases hpath
  · next v hget =>
    refine ⟨v, hget, fun htruthy => ?_⟩
    rw [if_pos htruthy] at hpath
    obtain ⟨p, a₂, s₂, hp, hway⟩ := exec_bind_eq_ok hpath
    rw [exec_path_eq] at hp
    have hgiven : o.pathOn "log" s = .ok p := congrArg Outcome.result hp
    obtain ⟨-, a₃, s₃, -, hkept⟩ := exec_bind_eq_ok hway
    obtain rfl : p = path := Except.ok.inj (congrArg Outcome.result hkept)
    obtain ⟨streams, a₄, s₄, hfiles, hlogger⟩ := exec_bind_eq_ok hopen
    have hne : ¬ p.isEmpty = true := by simpa using ne_nil_of_pathOn hget htruthy hgiven
    rw [Logger.openFiles, if_neg hne] at hfiles
    obtain ⟨stream, a₅, s₅, hend, hrest⟩ := exec_bind_eq_ok hfiles
    -- After the file is opened, nothing happens to the machine any more.
    obtain rfl : s₅ = s₄ := congrArg Outcome.machine hrest
    obtain rfl : s₅ = t := congrArg Outcome.machine hlogger
    rw [exec_openEnd] at hend
    have hfile := Machine.hasFile_of_openEnd (mapError_eq_ok (congrArg Outcome.result hend))
    have hmachine : (s₁.openEnd p).2 = s₅ := congrArg Outcome.machine hend
    rw [hmachine] at hfile
    have hgrown := hgrows.trans (hmachine ▸ s₁.extends_openEnd p)
    refine ⟨p, ?_, hfile⟩
    unfold OptionStore.pathOn at hgiven ⊢
    rw [hgrown.keeps.pathRules]
    exact hgiven

/-- A log whose file is there can be opened. -/
theorem exec_openLog_of_hasLog (h : o.HasLog s) (a : App) :
    ∃ l t, (openLog o).exec a s = ⟨.ok l, a, t⟩ := by
  obtain ⟨v, hget, hfile⟩ := h
  unfold openLog OptionStore.logPath
  rw [hget]
  dsimp only
  by_cases htruthy : v.isTruthy = true
  · obtain ⟨path, hpath, hfile⟩ := hfile htruthy
    have hgiven : exec (o.path "log") a s = ⟨.ok path, a, s⟩ := by
      rw [exec_path_eq, hpath]
    obtain ⟨t, hway⟩ := Host.exec_makeWay_of_hasFile hfile a
    have hgrows := (Host.local_makeWay path a a s).2
    rw [hway] at hgrows
    obtain ⟨stream, hstream⟩ := Machine.openEnd_of_hasFile (hfile.of_keeps hgrows.keeps)
    have hend : exec (Host.attemptFile path
        (Host.openEnd path : StateT App (StateM Machine) _)) a t =
        ⟨.ok stream, a, (t.openEnd path).2⟩ := by
      rw [exec_openEnd, hstream]
      rfl
    have hne : ¬ path.isEmpty = true := by simpa using ne_nil_of_pathOn hget htruthy hpath
    have hkept : exec (do
        let p ← o.path "log"
        Host.makeWay p
        return p) a s = ⟨.ok path, a, t⟩ := by
      rw [exec_bind_of_ok hgiven, exec_bind_of_ok hway]
      rfl
    rw [if_pos htruthy, exec_bind_of_ok hkept]
    unfold Logger.openLogger
    rw [Logger.openFiles, if_neg hne, bind_assoc, exec_bind_of_ok hend]
    exact ⟨_, _, rfl⟩
  · rw [if_neg htruthy]
    exact ⟨_, _, rfl⟩

end Program

end Collation
