import Collation.Proofs.Config.Reading
import Collation.Proofs.Option.Values
import Collation.Proofs.Text.Lines
import Collation.Proofs.Text.Parts

/-! An option whose value stands on one line of a configuration file. No line after it changes the
value, unless the value goes on there. -/

namespace Collation.Config

/-- Whether lines go on with a value that a line without indentation has opened. -/
def goesOn : List Text → Bool
  | [] => false
  | line :: rest => if isPassed line then goesOn rest else decide (0 < indentOf line)

namespace Reading

variable {r r' : Reading} {line place option name text blank : Text} {value : List Text}
  {lines : List Text} {number : Nat}

/-- The value of an option was read, and no line belongs to it any more. -/
structure HasEnded (place option : Text) (value : List Text) (r : Reading) : Prop where
  entries : r.entries place option = [(option, value)]
  closed : r.place = .named place → r.option ≠ some option

/-- The option that was read last, on a line without indentation. -/
structure IsOpen (place option : Text) (value : List Text) (r : Reading) : Prop where
  entries : r.entries place option = [(option, value)]
  place : r.place = .named place
  option : r.option = some option
  indent : r.indent = 0

theorem option_of_openOption? (h : r.openOption? = some name) : r.option = some name := by
  unfold openOption? at h
  split at h
  · contradiction
  · exact (Option.filter_eq_some_iff.mp h).1

/-! Lines that start a section or another option leave the value alone. -/

theorem entries_opens (h : r.entries place option = [(option, value)]) (name : Text) :
    Reading.entries { r with layout :=
      { r.layout with sections := r.layout.sections ++ [⟨name, []⟩] } } place option =
        [(option, value)] := by
  unfold entries section? at h ⊢
  dsimp only
  rw [List.find?_append]
  cases hsection : r.layout.sections.find? fun s => decide (s.name = place) with
  | none =>
    rw [hsection] at h
    contradiction
  | some s =>
    rw [hsection] at h
    exact h

theorem ne_of_new (h : r.entries place option = [(option, value)]) (hplace : r.place = .named place)
    (hnew : ∀ o ∈ r.options, o.1 ≠ name) : name ≠ option := by
  rintro rfl
  have hmem : (name, value) ∈ r.entries place name := by
    rw [h]
    exact List.mem_cons_self
  rw [entries, ← options_of_place hplace] at hmem
  exact hnew _ (List.mem_filter.mp hmem).1 rfl

theorem hasEnded_sets {bad : List (Nat × Text)} {indent : Nat} (hplaced : r.IsPlaced)
    (h : r.entries place option = [(option, value)]) (hnew : ∀ o ∈ r.options, o.1 ≠ name)
    (text : Text) :
    HasEnded place option value { (Reading.changeOptions { r with indent := indent }
      (· ++ [(name, [text])])) with option := some name, badLines := bad } := by
  have hentries := entries_append (r := { r with indent := indent }) hplaced place option name text
  constructor
  · refine Eq.trans hentries ?_
    rw [if_neg]
    · exact h
    · rintro ⟨hplace, hname⟩
      exact ne_of_new h hplace hnew hname
  · intro hplace hname
    rw [place_changeOptions] at hplace
    exact ne_of_new h hplace hnew (Option.some.inj hname)

theorem hasEnded_step (h : r.Step line r') (hplaced : r.IsPlaced)
    (hr : HasEnded place option value r) : HasEnded place option value r' := by
  obtain ⟨hentries, hclosed⟩ := hr
  cases h with
  | skip => exact ⟨hentries, hclosed⟩
  | @goOn name hopen =>
    constructor
    · rw [entries_addLine, if_neg]
      · exact hentries
      · rintro ⟨hplace, rfl⟩
        exact hclosed hplace (option_of_openOption? hopen)
    · rw [addLine, place_changeOptions, option_changeOptions]
      exact hclosed
  | defaults => exact ⟨hentries, fun _ => (Option.some_ne_none option).symm⟩
  | opens => exact ⟨entries_opens hentries _, fun _ => (Option.some_ne_none option).symm⟩
  | sets hline hnew => exact hasEnded_sets hplaced hentries hnew _
  | bad => exact ⟨hentries, hclosed⟩

theorem hasEnded_lines (h : r.lines number lines = .ok r') (hplaced : r.IsPlaced)
    (hr : HasEnded place option value r) : HasEnded place option value r' := by
  have hboth : r'.IsPlaced ∧ HasEnded place option value r' :=
    lines_invariant (P := fun r => r.IsPlaced ∧ HasEnded place option value r)
      (fun hstep hkept => ⟨isPlaced_step hstep hkept.1, hasEnded_step hstep hkept.1 hkept.2⟩) h
      ⟨hplaced, hr⟩
  exact hboth.2

/-- A blank line may belong to an open value, and a comment does not. -/
theorem isOpen_step (h : r.Step line r') (hline : isPassed line = true)
    (hr : IsOpen place option value r) :
    IsOpen place option value r' ∨ IsOpen place option (value ++ [[]]) r' := by
  cases h with
  | skip => exact Or.inl hr
  | @goOn name hopen hblank =>
    right
    obtain ⟨hentries, hplace, hoption, hindent⟩ := hr
    obtain rfl : option = name :=
      Option.some.inj (hoption.symm.trans (option_of_openOption? hopen))
    rcases hblank with ⟨-, hstrip⟩ | ⟨hcontent, -⟩
    · rw [hstrip]
      constructor
      · rw [entries_addLine, if_pos ⟨hplace, rfl⟩, hentries]
        rfl
      · exact (place_changeOptions r _).trans hplace
      · exact (option_changeOptions r _).trans hoption
      · exact (indent_changeOptions r _).trans hindent
    · rw [hline] at hcontent
      contradiction
  | defaults hcontent | opens hcontent | sets hcontent | bad hcontent =>
    rw [hline] at hcontent
    contradiction

/-- A line with content, but no indentation, ends an open value. -/
theorem hasEnded_of_isOpen (h : r.Step line r') (hplaced : r.IsPlaced)
    (hline : isPassed line = false) (hindent : indentOf line = 0)
    (hr : IsOpen place option value r) :
    HasEnded place option value r' ∨ r'.badLines ≠ [] := by
  cases h with
  | skip hpassed =>
    rw [hline] at hpassed
    contradiction
  | goOn hopen hmore =>
    rcases hmore with ⟨hpassed, -⟩ | ⟨-, hdeeper⟩
    · rw [hline] at hpassed
      contradiction
    · rw [hindent] at hdeeper
      exact absurd hdeeper (Nat.not_lt_zero _)
  | defaults => exact Or.inl ⟨hr.entries, fun _ => (Option.some_ne_none option).symm⟩
  | opens =>
    exact Or.inl ⟨entries_opens hr.entries _, fun _ => (Option.some_ne_none option).symm⟩
  | sets hcontent hnew => exact Or.inl (hasEnded_sets hplaced hr.entries hnew _)
  | bad => exact Or.inr (List.cons_ne_nil _ _)

/-- The lines after an option that do not go on with its value add blank lines to it at most. -/
theorem entries_of_isOpen (h : r.lines number lines = .ok r') (hplaced : r.IsPlaced)
    (hgoesOn : goesOn lines = false) (hr : IsOpen place option value r) :
    r'.badLines ≠ [] ∨
      ∃ k, r'.entries place option = [(option, value ++ List.replicate k [])] := by
  induction lines generalizing r number value with
  | nil =>
    obtain rfl := Except.ok.inj h
    exact Or.inr ⟨0, by rw [hr.entries]; simp⟩
  | cons line lines ih =>
    obtain ⟨r₁, hline, hlines⟩ := bind_eq_ok h
    have hstep := step_of_line hline
    have hplaced₁ := isPlaced_step hstep hplaced
    cases hpassed : isPassed line with
    | true =>
      rw [goesOn, if_pos hpassed] at hgoesOn
      rcases isOpen_step hstep hpassed hr with hopen | hopen
      · exact ih hlines hplaced₁ hgoesOn hopen
      · refine (ih hlines hplaced₁ hgoesOn hopen).imp_right ?_
        rintro ⟨k, hk⟩
        refine ⟨k + 1, ?_⟩
        rw [hk, List.append_assoc, List.replicate_succ]
        rfl
    | false =>
      rw [goesOn, if_neg (by simp [hpassed])] at hgoesOn
      have hindent : indentOf line = 0 := by
        have := of_decide_eq_false hgoesOn
        omega
      rcases hasEnded_of_isOpen hstep hplaced hpassed hindent hr with hended | hbad
      · refine Or.inr ⟨0, ?_⟩
        rw [(hasEnded_lines hlines hplaced₁ hended).entries]
        simp
      · exact Or.inl (badLines_lines hlines hbad)

/-! The line that sets rules. -/

theorem strip_rulesLine (hstrip : Text.strip text = text) (hne : text ≠ [])
    (hblank : Text.isBlank blank = true) :
    Text.strip ("rules = ".toList ++ text ++ blank) = "rules = ".toList ++ text := by
  obtain ⟨-, hlast⟩ := Text.ends_of_strip_eq hstrip
  have hfirst : ∀ c ∈ ("rules = ".toList ++ text).head?, isSpace c = false := by
    rintro c ⟨⟩
    decide
  have hend : ∀ c ∈ ("rules = ".toList ++ text).getLast?, isSpace c = false := by
    rw [List.getLast?_append_of_ne_nil _ hne]
    exact hlast
  rw [Text.strip_append hfirst hend (by simp), Text.stripRight_of_isBlank hblank, List.append_nil]

theorem option?_rulesLine (hstrip : Text.strip text = text) :
    option? ("rules = ".toList ++ text) = some ("rules".toList, text) := by
  have hvalue : Text.strip (' ' :: text) = text := by
    rw [Text.strip_cons_space (by decide), hstrip]
  unfold option?
  simp [isDelimiter, hvalue, Text.stripRight, isSpace]

/-- After a line with rules, the option of that name is open with them for its value. -/
theorem isOpen_of_rulesLine (hstrip : Text.strip text = text) (hne : text ≠ [])
    (hblank : Text.isBlank blank = true) (hplaced : r.IsPlaced) (hplace : r.place = .named place)
    (h : r.line number ("rules = ".toList ++ text ++ blank) = .ok r') :
    IsOpen place "rules" [text] r' := by
  have hcontent := strip_rulesLine hstrip hne hblank
  have hcomment : ¬ isComment ("rules = ".toList ++ text) = true := Bool.eq_false_iff.mp rfl
  have hempty : ¬ ("rules = ".toList ++ text).isEmpty = true := Bool.eq_false_iff.mp rfl
  have hindent : (("rules = ".toList ++ text ++ blank).takeWhile isSpace).length = 0 := rfl
  have hheader : header? ("rules = ".toList ++ text) = none := rfl
  have hsomewhere : ¬ r.place = .nowhere := by
    rw [hplace]
    exact nofun
  have hlower : Unicode.lowerCase "rules" = "rules".toList := by decide +kernel
  unfold Reading.line at h
  dsimp only at h
  rw [hcontent, if_neg hcomment, if_neg hempty, hindent, if_neg (Nat.not_lt_zero _)] at h
  dsimp only at h
  rw [hheader] at h
  dsimp only at h
  rw [if_neg hsomewhere, option?_rulesLine hstrip] at h
  dsimp only at h
  unfold setOption at h
  dsimp only at h
  rw [hlower] at h
  split at h
  · contradiction
  · next hnew =>
    obtain rfl := Except.ok.inj h
    have hnone : r.entries place "rules" = [] := by
      rw [entries, ← options_of_place hplace, List.filter_eq_nil_iff]
      intro o ho hname
      exact hnew (List.any_eq_true.mpr ⟨o, ho, hname⟩)
    have hentries := entries_append (r := { r with indent := 0 }) hplaced place "rules" "rules" text
    constructor
    · refine Eq.trans hentries ?_
      rw [if_pos ⟨hplace, rfl⟩]
      exact congrArg (· ++ _) hnone
    · exact (place_changeOptions _ _).trans hplace
    · rfl
    · exact indent_changeOptions _ _

end Reading

/-! From the lines of a section to its values. -/

variable {l : Layout} {s : Section} {sections : List (Text × Values)} {place option : Text}
  {value : List Text} {settings : List (Text × Text)} {vs : Values}

/-- The values of a section are found by its name. -/
theorem lookup_of_mapM {ss : List Section} {f : Section → Except Failure Values}
    (h : ss.mapM (fun s => do return (s.name, ← f s)) = .ok sections)
    (hs : ss.find? (·.name = place) = some s) :
    ∃ vs, f s = .ok vs ∧ sections.lookup place = some vs := by
  induction ss generalizing sections with
  | nil => contradiction
  | cons s' ss ih =>
    obtain ⟨p, sections, hp, hrest, rfl⟩ := mapM_cons_eq_ok h
    obtain ⟨vs, hvs, hpair⟩ := bind_eq_ok hp
    obtain rfl := Except.ok.inj hpair
    rw [List.find?_cons] at hs
    by_cases hname : s'.name = place
    · rw [decide_eq_true hname] at hs
      obtain rfl := Option.some.inj hs
      refine ⟨vs, hvs, ?_⟩
      rw [hname, List.lookup_cons_self]
    · rw [decide_eq_false hname] at hs
      rw [lookup_cons_of_ne (Ne.symm hname)]
      exact ih hrest hs

/-- A name that is set once has the value of its setting. -/
theorem last?_of_settings {text : Text}
    (h : settings.mapM (fun p => do return (p.1, ← evaluate p.2)) = .ok vs)
    (hone : settings.filter (·.1 = option) = [(option, text)]) :
    ∃ v, evaluate text = .ok v ∧ vs.last? option = some v := by
  have hfilter : (settings.filter (·.1 = option)).mapM
      (fun p => do return (p.1, ← evaluate p.2)) = .ok (vs.filter (·.1 = option)) := by
    clear hone
    induction settings generalizing vs with
    | nil =>
      obtain rfl := Except.ok.inj h
      rfl
    | cons p settings ih =>
      obtain ⟨q, vs, hq, hrest, rfl⟩ := mapM_cons_eq_ok h
      obtain ⟨v, hv, hpair⟩ := bind_eq_ok hq
      obtain rfl := Except.ok.inj hpair
      have hfiltered := ih hrest
      by_cases hp : p.1 = option
      · rw [List.filter_cons_of_pos (by simpa using hp),
          List.filter_cons_of_pos (by simpa using hp), List.mapM_cons, hv, hfiltered]
        rfl
      · rw [List.filter_cons_of_neg (by simpa using hp),
          List.filter_cons_of_neg (by simpa using hp)]
        exact hfiltered
  rw [hone] at hfilter
  obtain ⟨q, rest, hq, hrest, hvs⟩ := mapM_cons_eq_ok hfilter
  obtain ⟨v, hv, hpair⟩ := bind_eq_ok hq
  obtain rfl := Except.ok.inj hpair
  obtain rfl := Except.ok.inj hrest
  refine ⟨v, hv, ?_⟩
  unfold Values.last?
  apply lookup_of_filter
  rw [List.filter_reverse, hvs]
  rfl

/-- The value of an option that stands once in its section. -/
theorem exists_value_of_entries {r : Reading}
    (hentries : r.entries place option = [(option, value)]) (h : r.layout.values = .ok sections) :
    ∃ v, evaluate (valueText value) = .ok v ∧
      ((sections.lookup place).getD []).last? option = some v := by
  unfold Reading.entries at hentries
  cases hs : r.section? place with
  | none =>
    rw [hs] at hentries
    contradiction
  | some s =>
    rw [hs] at hentries
    have hmem : (option, value) ∈ s.options := by
      have hmem : (option, value) ∈ s.options.filter (·.1 = option) := by
        rw [Option.map_some, Option.getD_some] at hentries
        rw [hentries]
        exact List.mem_cons_self
      exact (List.mem_filter.mp hmem).1
    obtain ⟨vs, hvs, hlookup⟩ := lookup_of_mapM h hs
    have hone : (r.layout.settings s).filter (·.1 = option) = [(option, valueText value)] := by
      -- The defaults that the section sets itself are left out.
      have hinherited : (r.layout.defaults.filter fun d => !s.options.any (·.1 = d.1)).filter
          (fun o => decide (o.1 = option)) = [] := by
        rw [List.filter_eq_nil_iff]
        intro d hd hname
        have hnone := (List.mem_filter.mp hd).2
        rw [Bool.not_eq_true', List.any_eq_false] at hnone
        apply hnone _ hmem
        simpa using (of_decide_eq_true hname).symm
      have hown : s.options.filter (fun o => decide (o.1 = option)) = [(option, value)] := hentries
      have hname : ((fun p : Text × Text => decide (p.1 = option)) ∘
          fun o : Text × List Text => (o.1, valueText o.2)) = fun o => decide (o.1 = option) := rfl
      unfold Layout.settings
      rw [List.filter_map, hname, List.filter_append, hown, hinherited]
      rfl
    obtain ⟨v, hv, hlast⟩ := last?_of_settings hvs hone
    refine ⟨v, hv, ?_⟩
    rw [hlookup]
    exact hlast

/-- Blank lines after the line of a value leave it as it is. -/
theorem valueText_of_blank_lines {text : Text} (hstrip : Text.strip text = text) (hne : text ≠ [])
    (k : Nat) : valueText (text :: List.replicate k []) = text := by
  let blank : Text := (List.replicate k []).flatMap (['\n'] ++ ·)
  have hblank : Text.isBlank blank = true := by
    rw [Text.isBlank, List.all_eq_true]
    intro c hc
    obtain ⟨line, hline, hmem⟩ := List.mem_flatMap.mp hc
    obtain rfl := List.eq_of_mem_replicate hline
    obtain rfl := List.mem_singleton.mp hmem
    decide
  obtain ⟨-, hlast⟩ := Text.ends_of_strip_eq hstrip
  obtain ⟨before, c, rfl⟩ := (List.eq_nil_or_concat' text).resolve_left hne
  have hc : isSpace c = false := hlast c (by simp)
  rw [valueText, Text.join_cons, List.append_assoc]
  refine (Text.stripRight_append_cons before hc blank).trans ?_
  rw [Text.stripRight_of_isBlank hblank]

/-- Where the lines of a file set rules: on one line of a section, with nothing of the value on the
lines after it. -/
def SetsRules (place text : Text) (lines : List Text) : Prop :=
  ∃ before blank after r, lines = before ++ ("rules = ".toList ++ text ++ blank) :: after ∧
    Text.isBlank blank = true ∧ Reading.start.lines 1 before = .ok r ∧ r.place = .named place ∧
    goesOn after = false

/-- Rules that a file sets are what their text stands for. -/
theorem rules_of_layout {lines : List Text} {text : Text} {r : Reading} {l : Layout}
    (hstrip : Text.strip text = text) (hne : text ≠ []) (hsets : SetsRules place text lines)
    (hlines : Reading.start.lines 1 lines = .ok r) (hfinish : r.finish = .ok l)
    (hvalues : l.values = .ok sections) :
    ∃ v, evaluate text = .ok v ∧ ((sections.lookup place).getD []).last? "rules" = some v := by
  obtain ⟨before, blank, after, r₀, rfl, hblank, hbefore, hplace, hafter⟩ := hsets
  rw [Reading.lines_append, hbefore] at hlines
  change r₀.lines _ (_ :: after) = .ok r at hlines
  obtain ⟨r₁, hline, hrest⟩ := bind_eq_ok hlines
  have hplaced : r₀.IsPlaced := Reading.isPlaced_lines hbefore Reading.isPlaced_start
  have hopen := Reading.isOpen_of_rulesLine hstrip hne hblank hplaced hplace hline
  have hplaced₁ : r₁.IsPlaced := Reading.isPlaced_step (Reading.step_of_line hline) hplaced
  unfold Reading.finish at hfinish
  split at hfinish
  · next hgood =>
    obtain rfl := Except.ok.inj hfinish
    rcases Reading.entries_of_isOpen hrest hplaced₁ hafter hopen with hbad | ⟨k, hentries⟩
    · exact absurd (List.isEmpty_iff.mp hgood) hbad
    · obtain ⟨v, hv, hlast⟩ := exists_value_of_entries hentries hvalues
      refine ⟨v, ?_, hlast⟩
      rw [← hv]
      exact congrArg evaluate (valueText_of_blank_lines hstrip hne k).symm
  · contradiction

theorem linesOfBytes_of_decode {bs : List UInt8} {t : Text} (h : Utf8.decode bs = .ok t) :
    linesOfBytes bs = .ok (fileLines (Text.unifyNewlines t), none) := by
  have hsplit : Utf8.splitIncomplete bs = (bs, []) := by
    unfold Utf8.splitIncomplete
    rw [h]
  unfold linesOfBytes
  rw [hsplit]
  dsimp only
  rw [h]
  rfl

end Collation.Config
