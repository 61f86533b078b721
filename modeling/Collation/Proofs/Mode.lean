import Collation.Command
import Collation.Proofs.Lookup
import Collation.Proofs.Run.Ending

/-! The mode that a command line runs. A name stands for the mode of just that name, or else for the
only mode whose name starts with it. No name stands for no mode, even if there is only one. -/

namespace Collation

namespace Mode

variable {α : Type} {modes : List (Mode α)} {mode other : Mode α} {name : Text}

/-- The mode that a name stands for among modes. That other names start with the name of a mode does
not matter. -/
inductive Selects (modes : List (Mode α)) (name : Text) (mode : Mode α) : Prop
  | whole (hmem : mode ∈ modes) (hname : mode.name = name)
  | start (hmem : mode ∈ modes) (hwhole : ∀ n ∈ modes, n.name ≠ name) (hstart : name <+: mode.name)
      (honly : ∀ n ∈ modes, name <+: n.name → n = mode)

/-- The name that is asked for, in place of which stands the default if there is none. -/
def nameFor (default given : Text) : Text :=
  if given = [] then default else given

/-- The line of a mode among those that are available. -/
def listed (mode : Mode α) : Text :=
  mode.name ++ " - " ++ mode.description ++ "\n"

/-- What is shown in place of a run: a fault, and all modes one below the other. -/
def refusalText (modes : List (Mode α)) (fault : Fault) : Text :=
  fault.message ++ "\n\nCurrently available operations:\n" ++ modes.flatMap listed

/-! Modes that are put together have different names. -/

theorem nodup_insert (h : (modes.map Mode.name).Nodup) (mode : Mode α) :
    ((insert modes mode).map Mode.name).Nodup := by
  unfold insert
  split
  · have hnames : (modes.map fun n => if n.name = mode.name then mode else n).map Mode.name =
        modes.map Mode.name := by
      rw [List.map_map]
      refine List.map_congr_left fun n _ => ?_
      by_cases hn : n.name = mode.name <;> simp [hn]
    rwa [hnames]
  · next hnew =>
    rw [List.map_append, List.map_singleton]
    refine List.Nodup.append h (List.nodup_singleton _) (List.disjoint_singleton.mpr ?_)
    intro hmem
    obtain ⟨n, hn, hname⟩ := List.mem_map.mp hmem
    exact hnew (List.any_eq_true.mpr ⟨n, hn, decide_eq_true hname⟩)

theorem nodup_ofList (added : List (Mode α)) : ((ofList added).map Mode.name).Nodup := by
  suffices h : ∀ modes : List (Mode α), (modes.map Mode.name).Nodup →
      ((added.foldl insert modes).map Mode.name).Nodup from h [] List.nodup_nil
  induction added with
  | nil => exact fun _ hmodes => hmodes
  | cons mode added ih => exact fun modes hmodes => ih (insert modes mode) (nodup_insert hmodes mode)

/-! Choosing a mode. -/

theorem Selects.eq (hnames : (modes.map Mode.name).Nodup) (h : Selects modes name mode)
    (hother : Selects modes name other) : other = mode := by
  cases h with
  | whole hmem hname =>
    cases hother with
    | whole hmem' hname' =>
      exact List.inj_on_of_nodup_map hnames hmem' hmem (hname'.trans hname.symm)
    | start _ hwhole _ _ => exact absurd hname (hwhole mode hmem)
  | start hmem hwhole _ honly =>
    cases hother with
    | whole hmem' hname' => exact absurd hname' (hwhole other hmem')
    | start hmem' _ hstart' _ => exact honly other hmem' hstart'

theorem candidates_eq (modes : List (Mode α)) (default given : Text) :
    candidates modes default given =
      if nameFor default given = [] then []
      else match modes.find? (·.name = nameFor default given) with
        | some mode => [mode]
        | none => modes.filter (nameFor default given |>.isPrefixOf ·.name) := by
  simp only [candidates, nameFor, List.isEmpty_iff]
  rfl

theorem candidates_eq_singleton_iff (hnames : (modes.map Mode.name).Nodup) (default given : Text) :
    candidates modes default given = [mode] ↔
      nameFor default given ≠ [] ∧ Selects modes (nameFor default given) mode := by
  rw [candidates_eq]
  generalize nameFor default given = name
  by_cases hname : name = []
  · simp [hname]
  rw [if_neg hname]
  cases hfind : modes.find? (·.name = name) with
  | some found =>
    have hfound : Selects modes name found := .whole (List.mem_of_find?_eq_some hfind)
      (by simpa using List.find?_some hfind)
    constructor
    · intro h
      obtain rfl := List.singleton_inj.mp h
      exact ⟨hname, hfound⟩
    · rintro ⟨-, h⟩
      rw [h.eq hnames hfound]
  | none =>
    have hwhole : ∀ n ∈ modes, n.name ≠ name := by simpa using hfind
    simp only [filter_eq_singleton_iff hnames.of_map, List.isPrefixOf_iff_prefix]
    constructor
    · rintro ⟨hmem, hstart, honly⟩
      exact ⟨hname, .start hmem hwhole hstart honly⟩
    · rintro ⟨-, h⟩
      cases h with
      | whole hmem hname => exact absurd hname (hwhole mode hmem)
      | start hmem _ hstart honly => exact ⟨hmem, hstart, honly⟩

theorem choose_eq_ok_iff {default given : Text} :
    choose modes default given = .ok mode ↔ candidates modes default given = [mode] := by
  unfold choose
  split <;> simp_all

theorem exists_fault {default given : Text} (h : ∀ mode, candidates modes default given ≠ [mode]) :
    ∃ fault, choose modes default given = .error fault := by
  cases hchoose : choose modes default given with
  | error fault => exact ⟨fault, rfl⟩
  | ok mode => exact absurd (choose_eq_ok_iff.mp hchoose) (h mode)

theorem refusal_eq (modes : List (Mode α)) (fault : Fault) :
    refusal modes fault = refusalText modes fault := by
  have hlines : (modes.map fun mode => mode.name ++ " - ".toList ++ mode.description).flatMap
      (· ++ ['\n']) = modes.flatMap listed := List.flatMap_map _ _ modes
  rw [refusalText, ← hlines]
  simp [refusal]

end Mode

/-! The first argument goes to the script, and the others stay. -/

theorem shiftArguments_fst (argv : List Text) : (shiftArguments argv).1 = argv[1]?.getD [] := by
  match argv with
  | [] | [_] | _ :: _ :: _ => rfl

theorem tail_shiftArguments (argv : List Text) : (shiftArguments argv).2.tail = argv.drop 2 := by
  match argv with
  | [] | [_] | _ :: _ :: _ => rfl

theorem headD_shiftArguments (argv : List Text) :
    (shiftArguments argv).2.headD [] = Text.join [' '] (argv.take 2) := by
  match argv with
  | [] | [_] => simp [shiftArguments, Text.join]
  | _ :: _ :: _ => simp [shiftArguments, Text.join]

namespace Command

section Run

variable {m : Type → Type} [Monad m] [Host m] {modes : List (Mode (List Text → Attempt m Int))}
  {mode : Mode (List Text → Attempt m Int)} {default : Text} {argv : List Text}

theorem runMode_of_choose
    (h : Mode.choose modes default (argv[1]?.getD []) = .ok mode) :
    runMode modes default argv = mode.action (shiftArguments argv).2 := by
  rw [← shiftArguments_fst] at h
  unfold runMode
  rcases hshift : shiftArguments argv with ⟨given, shifted⟩
  rw [hshift] at h
  dsimp only
  rw [h]

theorem runMode_of_fault {fault : Mode.Fault}
    (h : Mode.choose modes default (argv[1]?.getD []) = .error fault) :
    runMode modes default argv = do
      Host.put .messages (Mode.refusalText modes fault)
      return -1 := by
  rw [← shiftArguments_fst] at h
  unfold runMode
  rcases hshift : shiftArguments argv with ⟨given, shifted⟩
  rw [hshift] at h
  dsimp only
  rw [h, ← Mode.refusal_eq]
  rfl

/-- A program runs the mode that the first argument stands for, or the default without one, and runs
it once, with the arguments after it. If no mode is asked for, or none or more than one mode answers
to the name, all modes are shown in place of a run. -/
theorem runMode_runs_selected (hnames : (modes.map Mode.name).Nodup) (default : Text)
    (argv : List Text) :
    let name := Mode.nameFor default (argv[1]?.getD [])
    let shifted := (shiftArguments argv).2
    (∀ mode other, Mode.Selects modes name mode → Mode.Selects modes name other →
      other = mode) ∧
    (∀ mode, name ≠ [] → Mode.Selects modes name mode →
      runMode modes default argv = mode.action shifted) ∧
    ((name = [] ∨ ∀ mode, ¬Mode.Selects modes name mode) → ∃ fault,
      runMode modes default argv = do
        Host.put .messages (Mode.refusalText modes fault)
        return -1) ∧
    shifted.tail = argv.drop 2 ∧
    ∀ store : OptionStore, store.parse shifted =
      store.parse (Text.join [' '] (argv.take 2) :: argv.drop 2) := by
  intro name shifted
  refine ⟨fun mode other h hother => h.eq hnames hother, fun mode hname h => ?_, fun h => ?_,
    tail_shiftArguments argv, fun store => ?_⟩
  · have hcandidates := (Mode.candidates_eq_singleton_iff hnames default _).mpr ⟨hname, h⟩
    exact runMode_of_choose (Mode.choose_eq_ok_iff.mpr hcandidates)
  · have hnone : ∀ mode, Mode.candidates modes default (argv[1]?.getD []) ≠ [mode] := by
      intro mode hcandidates
      obtain ⟨hname, hselects⟩ :=
        (Mode.candidates_eq_singleton_iff hnames default _).mp hcandidates
      rcases h with hempty | hnot
      · exact hname hempty
      · exact hnot mode hselects
    obtain ⟨fault, hfault⟩ := Mode.exists_fault hnone
    exact ⟨fault, runMode_of_fault hfault⟩
  · unfold OptionStore.parse
    rw [headD_shiftArguments, tail_shiftArguments]
    rfl

end Run

def sortMode : Mode (List Text → Attempt (StateM Machine) Int) :=
  ⟨"sort", "Sort lines.", fun argv => return argv.length⟩

def sortAllMode : Mode (List Text → Attempt (StateM Machine) Int) :=
  ⟨"sort-all", "Sort files.", fun argv => return 10 + argv.length⟩

def tableMode : Mode (List Text → Attempt (StateM Machine) Int) :=
  ⟨"table", "Show a table.", fun argv => return 20 + argv.length⟩

/-- One name is the start of another, and the default is the start of a name. -/
theorem runMode_runs_selected_nested :
    let modes := Mode.ofList [sortAllMode, sortMode, tableMode]
    (modes.map Mode.name).Nodup ∧
    runMode modes "ta" ["p", "sort", "a", "b"] = sortMode.action ["p sort", "a", "b"] ∧
    runMode modes "ta" ["p", "sort-"] = sortAllMode.action ["p sort-"] ∧
    runMode modes "ta" ["p", "", "a"] = tableMode.action ["p ", "a"] ∧
    ∃ fault, runMode modes "ta" ["p", "so"] = do
      Host.put .messages (Mode.refusalText modes fault)
      return -1 := by
  intro modes
  have hnames : (modes.map Mode.name).Nodup := Mode.nodup_ofList _
  have hsort : Mode.candidates modes "ta" "sort" = [sortMode] := rfl
  have hsortAll : Mode.candidates modes "ta" "sort-" = [sortAllMode] := rfl
  have htable : Mode.candidates modes "ta" [] = [tableMode] := rfl
  obtain ⟨hname, hselects⟩ := (Mode.candidates_eq_singleton_iff hnames "ta" "sort").mp hsort
  obtain ⟨hnameAll, hselectsAll⟩ :=
    (Mode.candidates_eq_singleton_iff hnames "ta" "sort-").mp hsortAll
  obtain ⟨hnameTable, hselectsTable⟩ :=
    (Mode.candidates_eq_singleton_iff hnames "ta" []).mp htable
  have hnone : ∀ mode, ¬Mode.Selects modes "so" mode := by
    intro mode hselects
    have hone := (Mode.candidates_eq_singleton_iff hnames "ta" "so").mpr ⟨by decide, hselects⟩
    have htwo : Mode.candidates modes "ta" "so" = [sortAllMode, sortMode] := rfl
    rw [htwo] at hone
    cases hone
  obtain ⟨-, hrun, -⟩ := runMode_runs_selected hnames "ta" ["p", "sort", "a", "b"]
  obtain ⟨-, hrunAll, -⟩ := runMode_runs_selected hnames "ta" ["p", "sort-"]
  obtain ⟨-, hrunTable, -⟩ := runMode_runs_selected hnames "ta" ["p", "", "a"]
  obtain ⟨-, -, hrefused, -⟩ := runMode_runs_selected hnames "ta" ["p", "so"]
  exact ⟨hnames, hrun sortMode hname hselects, hrunAll sortAllMode hnameAll hselectsAll,
    hrunTable tableMode hnameTable hselectsTable, hrefused (Or.inr hnone)⟩

/-- A machine without files. -/
def bareMachine : Machine :=
  .ofTree ⟨[]⟩ "/root" "/package" [] "[now]: "

/-- The only mode has a name that starts with the empty name, and yet is not run if neither an
argument nor a default asks for one. -/
theorem runMode_refuses_empty_default :
    ([tableMode].map Mode.name).Nodup ∧
    Mode.nameFor [] ((["p"] : List Text)[1]?.getD []) = [] ∧
    Mode.Selects [tableMode] [] tableMode ∧
    runOn (runMode [tableMode] [] ["p"]) bareMachine = (.ok (-1),
      { bareMachine with err := bareMachine.err.write (Mode.refusalText [tableMode] .missing) }) ∧
    runOn (tableMode.action ["p"]) bareMachine = (.ok 21, bareMachine) := by
  have hselects : Mode.Selects [tableMode] [] tableMode :=
    .start List.mem_cons_self (by decide) List.nil_prefix fun _ hn _ => List.mem_singleton.mp hn
  have hfault : Mode.choose [tableMode] [] ((["p"] : List Text)[1]?.getD []) = .error .missing :=
    rfl
  refine ⟨by decide, rfl, hselects, ?_, rfl⟩
  rw [runMode_of_fault hfault]
  rfl

end Command

end Collation
