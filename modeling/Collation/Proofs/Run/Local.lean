import Collation.Proofs.File.Growth
import Collation.Proofs.Run.Setup
import Collation.Proofs.Run.Steps

/-! Actions of the machine alone. They leave the application as it is and do not depend on it, and
they add to the files without taking anything from them. -/

namespace Collation

/-- A machine on which no stream fails. -/
structure Machine.IsSound (s : Machine) : Prop where
  out : s.out.IsSound ∧ s.out.isClosed = false
  err : s.err.IsSound ∧ s.err.isClosed = false
  streams : ∀ o ∈ s.streams, o.IsSound
  devices : ∀ route n, s.devices route n = none

/-- The same machine later on, with more files and longer ones. -/
structure Machine.Extends (s t : Machine) : Prop where
  tree : s.tree.Extends t.tree
  current : t.current = s.current
  homePath : t.homePath = s.homePath
  packagePath : t.packagePath = s.packagePath
  unread : t.unread = s.unread
  sound : s.IsSound → t.IsSound

namespace Machine

variable {s t u : Machine}

theorem isSound_ofTree (tree : FileTree) (home package : Text) (unread : List UInt8)
    (stamp : Text) : (ofTree tree home package unread stamp).IsSound := by
  have hmemory : OpenStream.inMemory.IsSound := OpenStream.isSound_new _ fun _ => rfl
  exact ⟨⟨hmemory, rfl⟩, ⟨hmemory, rfl⟩, nofun, fun _ _ => rfl⟩

theorem IsSound.unread (h : s.IsSound) (unread : List UInt8) :
    { s with unread := unread }.IsSound :=
  ⟨h.out, h.err, h.streams, h.devices⟩

theorem extends_refl (s : Machine) : s.Extends s :=
  ⟨FileTree.extends_refl _, rfl, rfl, rfl, rfl, id⟩

theorem Extends.trans (h : s.Extends t) (h' : t.Extends u) : s.Extends u :=
  ⟨h.tree.trans h'.tree, h'.current.trans h.current, h'.homePath.trans h.homePath,
    h'.packagePath.trans h.packagePath, h'.unread.trans h.unread, h'.sound ∘ h.sound⟩

theorem extends_openEnd (path : Text) (s : Machine) : s.Extends (s.openEnd path).2 := by
  unfold openEnd
  split
  · exact extends_refl s
  · next route tree hopen =>
    refine ⟨(FileTree.openEnd_eq_ok hopen).1, rfl, rfl, rfl, rfl, fun h => ?_⟩
    refine ⟨h.out, h.err, fun o ho => ?_, h.devices⟩
    rcases List.mem_append.mp ho with hbefore | hnew
    · exact h.streams o hbefore
    · obtain rfl := List.mem_singleton.mp hnew
      exact OpenStream.isSound_new _ (h.devices route)

theorem extends_makeDirectory (path : Text) (s : Machine) :
    s.Extends (s.makeDirectory path).2 := by
  unfold makeDirectory
  split
  · exact extends_refl s
  · next hmake =>
    exact ⟨FileTree.extends_makeDirectory hmake, rfl, rfl, rfl, rfl,
      fun h => ⟨h.out, h.err, h.streams, h.devices⟩⟩

theorem extends_pass (sink : Sink) (t : Text) (s : Machine) : s.Extends (s.pass sink t) := by
  unfold pass
  split
  · exact extends_refl s
  · split
    · exact extends_refl s
    · exact ⟨FileTree.extends_append _ _ _, rfl, rfl, rfl, rfl,
        fun h => ⟨h.out, h.err, h.streams, h.devices⟩⟩

/-- A file in a state that is sound if the one before was. -/
theorem extends_set {n : Nat} {o o' : OpenStream} (ho : s.streams[n]? = some o)
    (h : o.IsSound → o'.IsSound) : s.Extends { s with streams := s.streams.set n o' } := by
  refine ⟨FileTree.extends_refl _, rfl, rfl, rfl, rfl, fun hs => ⟨hs.out, hs.err, ?_, hs.devices⟩⟩
  intro x hx
  rcases List.mem_or_eq_of_mem_set hx with hbefore | rfl
  · exact hs.streams x hbefore
  · exact h (hs.streams o (List.mem_of_getElem? ho))

theorem extends_write (stream : Stream) (line : Text) (s : Machine) :
    s.Extends (s.write stream line).2 := by
  cases stream with
  | output =>
    exact ⟨FileTree.extends_refl _, rfl, rfl, rfl, rfl, fun h =>
      ⟨⟨h.out.1.write line, (s.out.isClosed_write line).trans h.out.2⟩, h.err, h.streams,
        h.devices⟩⟩
  | messages =>
    exact ⟨FileTree.extends_refl _, rfl, rfl, rfl, rfl, fun h =>
      ⟨h.out, ⟨h.err.1.write line, (s.err.isClosed_write line).trans h.err.2⟩, h.streams,
        h.devices⟩⟩
  | file n =>
    change s.Extends (s.writeFile n line).2
    unfold writeFile
    split
    · exact extends_refl s
    · next o ho =>
      exact (extends_set ho fun h => h.write line).trans (extends_pass _ _ _)

theorem extends_tell (line : Text) (streams : List Stream) (s : Machine) :
    s.Extends (s.tell line streams) := by
  induction streams generalizing s with
  | nil => exact extends_refl s
  | cons stream streams ih => exact (extends_write stream line s).trans (ih _)

theorem extends_closeFile (n : Nat) (s : Machine) : s.Extends (s.closeFile n).2 := by
  unfold closeFile
  split
  · exact extends_refl s
  · next o ho => exact (extends_set ho fun h => h.close).trans (extends_pass _ _ _)

theorem extends_closeFiles (ns : List Nat) (s : Machine) :
    s.Extends (upTo close (ns.map Stream.file) s).2 := by
  refine upTo_induction (P := s.Extends) ?_ s.extends_refl
  intro stream hstream t ht
  obtain ⟨n, -, rfl⟩ := List.mem_map.mp hstream
  exact ht.trans (t.extends_closeFile n)

end Machine

variable {α β : Type}

namespace Program

variable {x : Program (StateM Machine) α} {f : α → Program (StateM Machine) β} {a b : App}
  {s : Machine}

/-- What an action does, whatever application it is an action of. -/
def Local (x : Program (StateM Machine) α) : Prop :=
  ∀ a b s, x.exec a s = ⟨(x.exec b s).result, a, (x.exec b s).machine⟩ ∧
    s.Extends (x.exec b s).machine

theorem local_pure (v : α) : Local (pure v : Program (StateM Machine) α) :=
  fun _ _ s => ⟨rfl, s.extends_refl⟩

theorem local_throw (e : Failure) : Local (throw e : Program (StateM Machine) α) :=
  fun _ _ s => ⟨rfl, s.extends_refl⟩

theorem local_bind (hx : Local x) (hf : ∀ v, Local (f v)) : Local (x >>= f) := by
  intro a b s
  obtain ⟨hexec, hgrows⟩ := hx a b s
  have happ : (x.exec b s).app = b := congrArg Outcome.app (hx b b s).1
  rw [exec_bind, exec_bind, hexec]
  unfold Outcome.next
  dsimp only
  cases hresult : (x.exec b s).result with
  | error e => exact ⟨rfl, hgrows⟩
  | ok v =>
    dsimp only
    rw [happ]
    obtain ⟨hexec', hgrows'⟩ := hf v a b (x.exec b s).machine
    exact ⟨hexec', hgrows.trans hgrows'⟩

theorem local_tryCatch {h : Failure → Program (StateM Machine) α} (hx : Local x)
    (hh : ∀ e, Local (h e)) : Local (tryCatch x h) := by
  intro a b s
  obtain ⟨hexec, hgrows⟩ := hx a b s
  have happ : (x.exec b s).app = b := congrArg Outcome.app (hx b b s).1
  rw [exec_tryCatch, exec_tryCatch, hexec]
  unfold Outcome.rescue
  dsimp only
  cases hresult : (x.exec b s).result with
  | ok v =>
    dsimp only
    exact ⟨by rw [hresult], hgrows⟩
  | error e =>
    dsimp only
    rw [happ]
    obtain ⟨hexec', hgrows'⟩ := hh e a b (x.exec b s).machine
    exact ⟨hexec', hgrows.trans hgrows'⟩

theorem local_liftM {y : StateT App (StateM Machine) α}
    (hy : ∀ s, ∃ v t, (∀ a, (y.run a).run s = ((v, a), t)) ∧ s.Extends t) :
    Local (liftM y : Program (StateM Machine) α) := by
  intro a b s
  obtain ⟨v, t, hrun, hgrows⟩ := hy s
  rw [exec_liftM, exec_liftM, hrun a, hrun b]
  exact ⟨rfl, hgrows⟩

end Program

namespace Host

open Program

theorem local_attemptFile {y : StateT App (StateM Machine) (Except FileCause α)} (path : Text)
    (hy : ∀ s, ∃ v t, (∀ a, (y.run a).run s = ((v, a), t)) ∧ s.Extends t) :
    Local (attemptFile path y : Program (StateM Machine) α) := by
  refine local_bind (local_liftM hy) fun r => ?_
  cases r with
  | ok v => exact local_pure v
  | error cause => exact local_throw _

theorem local_makeLast (path : Text) :
    Local (makeLast path : Program (StateM Machine) Unit) := by
  refine local_bind (local_liftM fun s => ⟨_, _, fun _ => rfl, s.extends_makeDirectory path⟩)
    fun r => ?_
  cases r with
  | ok v => exact local_pure _
  | error cause =>
    refine local_bind (local_liftM fun s => ⟨_, _, fun _ => rfl, s.extends_refl⟩) fun isThere => ?_
    cases isThere with
    | true => exact local_pure _
    | false => exact local_throw _

theorem local_makeDirectoriesWithin (fuel : Nat) (path : Text) :
    Local (makeDirectoriesWithin fuel path : Program (StateM Machine) Unit) := by
  induction fuel generalizing path with
  | zero => exact local_pure _
  | succ fuel ih =>
    rw [makeDirectoriesWithin]
    generalize (if (Path.lastName path).isEmpty then Path.parent path else path) = trimmed
    split
    · exact local_makeLast path
    · refine local_bind (local_liftM fun s => ⟨_, _, fun _ => rfl, s.extends_refl⟩) fun isThere => ?_
      split
      · exact local_makeLast path
      · refine local_bind (local_tryCatch (ih _) fun e => ?_) fun _ => ?_
        · split
          · exact local_throw e
          · exact local_pure _
        · split
          · exact local_makeLast path
          · exact local_pure _

theorem local_makeWay (path : Text) : Local (makeWay path : Program (StateM Machine) Unit) :=
  local_makeDirectoriesWithin _ _

end Host

namespace Logger

open Program

theorem local_openFiles (paths : List Text) :
    Local (openFiles paths : Program (StateM Machine) (List Stream)) := by
  induction paths with
  | nil => exact local_pure _
  | cons path paths ih =>
    rw [openFiles]
    split
    · exact ih
    · refine local_bind (Host.local_attemptFile path fun s =>
        ⟨_, _, fun _ => rfl, s.extends_openEnd path⟩) fun stream => ?_
      exact local_bind ih fun streams => local_pure _

end Logger

namespace Program

theorem local_path (o : OptionStore) (name : Text) :
    Local (o.path name : Program (StateM Machine) Text) := by
  intro a b s
  rw [exec_path_eq, exec_path_eq]
  exact ⟨rfl, s.extends_refl⟩

theorem local_logPath (o : OptionStore) :
    Local (o.logPath : Program (StateM Machine) Text) := by
  unfold OptionStore.logPath
  split
  · exact local_throw _
  · split
    · refine local_bind (local_path o "log") fun p => ?_
      exact local_bind (Host.local_makeWay p) fun _ => local_pure p
    · exact local_pure _

/-- Opens the log that options ask for. -/
def openLog (o : OptionStore) : Program (StateM Machine) Logger := do
  let path ← o.logPath
  Logger.openLogger [path] false true .time (some Logger.repeatSign)

theorem local_openLog (o : OptionStore) : Local (openLog o) := by
  refine local_bind (local_logPath o) fun path => ?_
  exact local_bind (Logger.local_openFiles _) fun files => local_pure _

/-- A log that is opened is kept. -/
theorem exec_logger {a : App} {s : Machine} (ha : a.logger = none) (b : App) :
    logger.exec a s = match ((openLog a.options).exec b s).result with
      | .ok l => ⟨.ok l, { a with logger := some l }, ((openLog a.options).exec b s).machine⟩
      | .error e => ⟨.error e, a, ((openLog a.options).exec b s).machine⟩ := by
  have hassoc : logger.exec a s = exec (do
      let l ← openLog a.options
      modify ({ · with logger := some l })
      return l) a s := by
    rw [exec_logger_of_none ha, openLog, bind_assoc]
  rw [hassoc, exec_bind, (local_openLog a.options a b s).1]
  cases ((openLog a.options).exec b s).result <;> rfl

variable {l : Logger} {a b : App} {s : Machine} {o : OptionStore}

theorem tidy_of_openLog (h : ((openLog o).exec (.ofOptions o) s).result = .ok l) : l.IsTidy := by
  have hopen : Yields Machine.shown Logger.IsTidy (openLog o) :=
    yields_bind o.careful_logPath fun path _ => Logger.yields_openLogger _ _
  exact (hopen (.ofOptions o) s nofun).holds l h

theorem result_logger (a : App) (ha : a.logger = none) (b : App) (s : Machine) :
    (logger.exec a s).result = ((openLog a.options).exec b s).result := by
  rw [exec_logger ha b]
  cases ((openLog a.options).exec b s).result <;> rfl

end Program

end Collation
