import Collation.Config.Format
import Collation.Proofs.Result

/-! What each line of a configuration file does to what is read of the file. -/

namespace Collation.Config

/-- Comments and blank lines start nothing. -/
def isPassed (line : Text) : Bool :=
  isComment (Text.strip line) || (Text.strip line).isEmpty

def indentOf (line : Text) : Nat :=
  (line.takeWhile isSpace).length

namespace Reading

/-- What a line can do. -/
inductive Step (r : Reading) (line : Text) : Reading → Prop where
  | skip (hline : isPassed line = true) : Step r line r
  | goOn {option : Text} (hopen : r.openOption? = some option)
      (hline : isPassed line = true ∧ Text.strip line = [] ∨
        isPassed line = false ∧ r.indent < indentOf line) :
      Step r line (r.addLine option (Text.strip line))
  | defaults (hline : isPassed line = false) :
      Step r line { r with indent := indentOf line, place := .defaults, option := none }
  | opens {name : Text} (hline : isPassed line = false)
      (hnew : ∀ s ∈ r.layout.sections, s.name ≠ name) :
      Step r line { r with
        indent := indentOf line
        layout := { r.layout with sections := r.layout.sections ++ [⟨name, []⟩] }
        place := .named name
        option := none }
  | sets {name value : Text} {bad : List (Nat × Text)} (hline : isPassed line = false)
      (hnew : ∀ o ∈ r.options, o.1 ≠ name) (hbad : r.badLines <:+ bad) :
      Step r line { (Reading.changeOptions { r with indent := indentOf line }
        (· ++ [(name, [value])])) with option := some name, badLines := bad }
  | bad {number : Nat} (hline : isPassed line = false) :
      Step r line { r with indent := indentOf line, badLines := (number, line) :: r.badLines }

variable {r r' : Reading} {line name value : Text} {number : Nat}

theorem step_of_enter (hline : isPassed line = false)
    (h : Reading.enter { r with indent := indentOf line } number name = .ok r') :
    r.Step line r' := by
  unfold enter at h
  split at h
  · contradiction
  · next hnew =>
    split at h
    · obtain rfl := Except.ok.inj h
      exact .defaults hline
    · obtain rfl := Except.ok.inj h
      refine .opens hline fun s hs heq => hnew ?_
      exact List.any_eq_true.mpr ⟨s, hs, decide_eq_true heq⟩

theorem step_of_setOption (hline : isPassed line = false)
    (h : Reading.setOption { r with indent := indentOf line } number line name value = .ok r') :
    r.Step line r' := by
  unfold setOption at h
  dsimp only at h
  split at h
  · contradiction
  · next hnew =>
    obtain rfl := Except.ok.inj h
    refine .sets hline (fun o ho heq => hnew ?_) ?_
    · exact List.any_eq_true.mpr ⟨o, ho, decide_eq_true heq⟩
    · split
      · exact List.suffix_cons _ _
      · exact List.suffix_rfl

theorem step_of_line (h : r.line number line = .ok r') : r.Step line r' := by
  unfold Reading.line at h
  dsimp only at h
  split at h
  · next hcomment =>
    obtain rfl := Except.ok.inj h
    exact .skip (by rw [isPassed, hcomment]; rfl)
  next hcomment =>
  split at h
  · next hempty =>
    have hline : isPassed line = true := by
      rw [isPassed, hempty]
      exact Bool.or_true _
    split at h
    · next option hopen =>
      obtain rfl := Except.ok.inj h
      have hstrip : Text.strip line = [] := List.isEmpty_iff.mp hempty
      have hstep := Step.goOn (r := r) hopen (Or.inl ⟨hline, hstrip⟩)
      rwa [hstrip] at hstep
    · obtain rfl := Except.ok.inj h
      exact .skip hline
  next hempty =>
  have hline : isPassed line = false := by
    rw [isPassed, Bool.eq_false_iff.mpr hcomment, Bool.eq_false_iff.mpr hempty]
    rfl
  split at h
  · next option hopen =>
    obtain rfl := Except.ok.inj h
    split at hopen
    · next hindent => exact .goOn hopen (Or.inr ⟨hline, hindent⟩)
    · contradiction
  split at h
  · exact step_of_enter hline h
  split at h
  · contradiction
  split at h
  · exact step_of_setOption hline h
  · obtain rfl := Except.ok.inj h
    exact .bad hline

/-- What each step keeps holds after all lines. -/
theorem lines_invariant {P : Reading → Prop} {lines : List Text}
    (hstep : ∀ {r r' : Reading} {line : Text}, r.Step line r' → P r → P r')
    (h : r.lines number lines = .ok r') (hr : P r) : P r' := by
  induction lines generalizing r number with
  | nil =>
    obtain rfl := Except.ok.inj h
    exact hr
  | cons line lines ih =>
    obtain ⟨r₁, hline, hlines⟩ := bind_eq_ok h
    exact ih hlines (hstep (step_of_line hline) hr)

/-! What a section holds. -/

def section? (r : Reading) (name : Text) : Option Section :=
  r.layout.sections.find? (·.name = name)

/-- The options of one name in a section, with the lines of their values. -/
def entries (r : Reading) (place option : Text) : Options :=
  (((r.section? place).map Section.options).getD []).filter (·.1 = option)

/-- The section that a line would belong to is there. -/
def IsPlaced (r : Reading) : Prop :=
  ∀ name, r.place = .named name → (r.section? name).isSome = true

variable {place option : Text} {lines : List Text} {f : Options → Options}

theorem section?_changeOptions (r : Reading) (f : Options → Options) (name : Text) :
    (r.changeOptions f).section? name = if r.place = .named name
      then (r.section? name).map fun s => ⟨name, f s.options⟩ else r.section? name := by
  unfold changeOptions section?
  cases hplace : r.place with
  | nowhere => simp
  | defaults => simp
  | named here =>
    dsimp only
    induction r.layout.sections with
    | nil => simp
    | cons s sections ih =>
      rw [List.map_cons, List.find?_cons, List.find?_cons]
      by_cases hhere : s.name = here
      · subst hhere
        by_cases hname : s.name = name
        · subst hname
          simp
        · simp only [if_pos, hname, decide_false, ih]
      · by_cases hname : s.name = name
        · subst hname
          have hne : Place.named here ≠ .named s.name := fun h => hhere (Place.named.inj h).symm
          simp [hhere, hne]
        · simp only [if_neg hhere, hname, decide_false, ih]

theorem options_of_place (h : r.place = .named place) :
    r.options = ((r.section? place).map Section.options).getD [] := by
  unfold options section?
  rw [h]

@[simp] theorem place_changeOptions (r : Reading) (f : Options → Options) :
    (r.changeOptions f).place = r.place := by
  unfold changeOptions
  split <;> rfl

@[simp] theorem option_changeOptions (r : Reading) (f : Options → Options) :
    (r.changeOptions f).option = r.option := by
  unfold changeOptions
  split <;> rfl

@[simp] theorem indent_changeOptions (r : Reading) (f : Options → Options) :
    (r.changeOptions f).indent = r.indent := by
  unfold changeOptions
  split <;> rfl

@[simp] theorem badLines_changeOptions (r : Reading) (f : Options → Options) :
    (r.changeOptions f).badLines = r.badLines := by
  unfold changeOptions
  split <;> rfl

/-- A bad line is never forgotten. -/
theorem badLines_step (h : r.Step line r') (hr : r.badLines ≠ []) : r'.badLines ≠ [] := by
  cases h with
  | skip => exact hr
  | goOn =>
    rw [addLine, badLines_changeOptions]
    exact hr
  | defaults => exact hr
  | opens => exact hr
  | sets hline hnew hbad =>
    intro hnil
    apply hr
    exact List.suffix_nil.mp (hnil ▸ hbad)
  | bad => exact List.cons_ne_nil _ _

theorem badLines_lines (h : r.lines number lines = .ok r') (hr : r.badLines ≠ []) :
    r'.badLines ≠ [] :=
  lines_invariant badLines_step h hr

theorem lines_append (r : Reading) (number : Nat) (before after : List Text) :
    r.lines number (before ++ after) =
      (r.lines number before).bind fun r' => r'.lines (number + before.length) after := by
  induction before generalizing r number with
  | nil => rfl
  | cons line before ih =>
    have hlength : number + (line :: before).length = number + 1 + before.length := by
      rw [List.length_cons]
      omega
    rw [List.cons_append, Reading.lines, Reading.lines, hlength]
    cases r.line number line with
    | error e => rfl
    | ok r₁ => exact ih r₁ (number + 1)

/-! The section that a line would belong to is there. -/

theorem isPlaced_changeOptions (h : r.IsPlaced) (f : Options → Options) :
    (r.changeOptions f).IsPlaced := by
  intro name hname
  have hplace : (r.changeOptions f).place = r.place := by
    unfold changeOptions
    split <;> rfl
  rw [hplace] at hname
  rw [section?_changeOptions, if_pos hname, Option.isSome_map]
  exact h name hname

theorem isPlaced_start : Reading.start.IsPlaced :=
  nofun

theorem isPlaced_step (h : r.Step line r') (hr : r.IsPlaced) : r'.IsPlaced := by
  cases h with
  | skip => exact hr
  | goOn => exact isPlaced_changeOptions hr _
  | defaults => exact nofun
  | opens hline hnew =>
    intro name hname
    obtain rfl := Place.named.inj hname
    unfold section?
    simp
  | sets => exact isPlaced_changeOptions (r := { r with indent := indentOf line }) hr _
  | bad => exact hr

theorem isPlaced_lines (h : r.lines number lines = .ok r') (hr : r.IsPlaced) : r'.IsPlaced :=
  lines_invariant isPlaced_step h hr

/-! What a line does to the options of one name. -/

theorem entries_addLine (r : Reading) (place option name line : Text) :
    (r.addLine name line).entries place option =
      if r.place = .named place ∧ name = option
        then (r.entries place option).map fun o => (o.1, o.2 ++ [line])
        else r.entries place option := by
  have hfilter : ∀ os : Options,
      (os.map fun o => if o.1 = name then (o.1, o.2 ++ [line]) else o).filter (·.1 = option) =
        if name = option then (os.filter (·.1 = option)).map fun o => (o.1, o.2 ++ [line])
        else os.filter (·.1 = option) := by
    intro os
    induction os with
    | nil => split <;> rfl
    | cons o os ih =>
      rw [List.map_cons]
      by_cases hname : name = option
      · subst hname
        rw [if_pos rfl] at ih ⊢
        by_cases ho : o.1 = name
        · simp [ho, ih]
        · simp [ho, ih]
      · rw [if_neg hname] at ih ⊢
        by_cases ho : o.1 = name
        · have hne : ¬ o.1 = option := fun h => hname (ho.symm.trans h)
          simp [ho, hname, ih]
        · rw [if_neg ho, List.filter_cons, List.filter_cons, ih]
  unfold entries addLine
  rw [section?_changeOptions]
  by_cases hplace : r.place = .named place
  · rw [if_pos hplace]
    cases hsection : r.section? place with
    | none => simp
    | some s =>
      simp only [Option.map_some, Option.getD_some, hfilter, hplace, true_and]
  · simp [hplace]

theorem entries_append (hplaced : r.IsPlaced) (place option name value : Text) :
    (r.changeOptions (· ++ [(name, [value])])).entries place option =
      if r.place = .named place ∧ name = option
        then r.entries place option ++ [(name, [value])] else r.entries place option := by
  unfold entries
  rw [section?_changeOptions]
  by_cases hplace : r.place = .named place
  · obtain ⟨s, hs⟩ := Option.isSome_iff_exists.mp (hplaced place hplace)
    rw [if_pos hplace, hs]
    by_cases hname : name = option
    · simp [hplace, hname]
    · simp [hplace, hname]
  · simp [hplace]

end Reading

end Collation.Config
