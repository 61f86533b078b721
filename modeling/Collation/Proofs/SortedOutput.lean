import Collation.Proofs.Run.Sort

/-! The output of a sort. It has the lines of all inputs in the stable order of the collator, and a
sort of it prints it again. -/

namespace Collation.Command

open Program

variable {s u : Machine} {a : App} {o : OptionStore} {names argv : List Text}

/-- If a sort returns 0 and leaves its inputs as they were, its output has the lines of all inputs in
the stable order of the collator that the options come to. If the output is the only input of a sort
with the same options later on, and the configuration and the rules are the same then, that sort
prints the same output if it returns 0, unless it logs to its input. It returns 0 if no stream of the
machine fails. -/
theorem sort_prints_sorted_lines
    (hparse : (OptionStore.standard sortDescription).parse argv = .ok o)
    (hrun : runOn (sort argv) s = (.ok 0, u))
    (hleft : ∀ name ∈ inputNames o, name ≠ inputName → u.file name = s.file name) :
    ∃ o' c texts lines, o.configured s = .ok o' ∧ o'.collatorOn s = .ok c ∧
      s.inputTexts (inputNames o) = .ok texts ∧
      (c.sort ((texts.flatMap Text.lines).map some)).1 = .ok (lines.map some) ∧
      lines = (texts.flatMap Text.lines).mergeSort
        (fun x y => (c.key (some x)).le (c.key (some y))) ∧
      u.output = s.output ++ Text.printed lines ∧
      ∀ s' argv' names name, u.Keeps s' → o.ReadsSame s s' →
        (OptionStore.standard sortDescription).parse argv' = .ok { o with positional := names } →
        inputNames { o with positional := names } = [name] →
        s'.inputBytes name = .ok (Utf8.encode (Text.printed lines)) →
        (name ≠ inputName → (runOn (sort argv') s').2.file name = s'.file name) →
        (∀ u', runOn (sort argv') s' = (.ok 0, u') →
          u'.output = s'.output ++ Text.printed lines) ∧
        (s'.IsSound → ∃ u', runOn (sort argv') s' = (.ok 0, u')) := by
  obtain ⟨o', c, t, unread, texts, hconfigured, hc, hgrows, hhas, hextends, htexts, houtput⟩ :=
    exists_of_runOn_sort hparse hrun
  have hread := hgrows.inputTexts_before hextends.tree hextends.current hleft htexts
  refine ⟨o', c, texts, c.sortedLines (texts.flatMap Text.lines), hconfigured, hc, hread,
    c.sort_lines _, rfl, houtput, ?_⟩
  intro s' argv' names name hkeeps hsources hparse' hnames hbytes hleft'
  have hlater : { t with unread := unread }.Keeps s' := hextends.keeps.trans hkeeps
  have hpaths : s'.pathRules = s.pathRules := hlater.pathRules.trans hgrows.keeps.pathRules
  have hconfigured' : { o with positional := names }.configured s' =
      .ok { o' with positional := names } := by
    rw [OptionStore.configured_positional, hsources.configured hpaths, hconfigured]
    rfl
  have hc' : { o' with positional := names }.collatorOn s' = .ok c := by
    rw [OptionStore.collatorOn_positional, hsources.collatorOn hpaths hconfigured, hc]
  have hhas' : { o' with positional := names }.HasLog s' :=
    (hhas.of_keeps ⟨hlater.tree, hlater.current, hlater.homePath, hlater.packagePath⟩).positional
      names
  have hlines : ∀ line ∈ c.sortedLines (texts.flatMap Text.lines), ∀ c ∈ line,
      isLineBreak c = false := by
    intro line hline c hchar
    obtain ⟨content, -, hmem⟩ := List.mem_flatMap.mp (List.mem_mergeSort.mp hline)
    exact Text.not_isLineBreak_of_mem_lines hmem hchar
  have hagain := runOn_sort_of_printed hparse' hconfigured' hc' hhas' hnames hbytes hlines hleft'
  rw [c.sortedLines_sortedLines] at hagain
  exact hagain

/-- A command line with rules, a log and inputs. -/
def sortArguments (log : Text) (names : List Text) : List Text :=
  ("program" : Text) :: names ++
    ["--log=" ++ log, "--rules=a < b", "--config=", "--normalization=none"]

/-- What decides the collator, the log and the inputs of a sort. -/
structure SortOptions where
  config : Option Text
  rules : Option Text
  form : Option (Option Form)
  strength : Option Strength
  hasProcesses : Bool
  log : Option Text
  names : List Text
  deriving DecidableEq

def SortOptions.ofStore (o : OptionStore) : SortOptions :=
  ⟨o.text? "config", o.text? "rules", o.form.toOption, o.strength.toOption,
    (o.get "processes").toOption.isSome, o.text? "log", o.positional⟩

/-- Without a configuration file, the command line alone decides the collator. -/
theorem exists_of_sortOptions (argv : List Text) (log : Text) (names : List Text)
    (h : ((OptionStore.standard sortDescription).parse argv).toOption.map SortOptions.ofStore =
      some ⟨some [], some "a < b".toList, some none, some .tertiary, true, some log, names⟩)
    (s : Machine) :
    ∃ o tab p, (OptionStore.standard sortDescription).parse argv = .ok o ∧ o.configured s = .ok o ∧
      o.pathOn "config" s = .ok [] ∧ o.get "rules" = .ok (.text "a < b") ∧
      Tailoring.ofRules none "a < b" = .ok tab ∧ o.tailoringOf (.text "a < b") = .ok tab ∧
      o.collatorOf tab = .ok ⟨tab, .tertiary, p⟩ ∧ o.get "log" = .ok (.text log) ∧
      o.positional = names := by
  obtain ⟨o, hparse, hoptions⟩ := exists_of_toOption h
  obtain ⟨hconfig, hrules, hform, hstrength, hprocesses, hlog, hnames⟩ :=
    SortOptions.mk.inj hoptions
  obtain ⟨tab, htab, -⟩ : ∃ tab, Tailoring.ofRules none "a < b" = .ok tab ∧
      tab.table.size = 2 := exists_of_toOption (by decide +kernel)
  obtain ⟨p, hp⟩ := Option.isSome_iff_exists.mp hprocesses
  have hpath : o.pathOn "config" s = .ok [] := by
    rw [OptionStore.pathOn_of_text (OptionStore.get_of_text? hconfig),
      s.convert_of_no_sign rfl rfl]
  have hsettings : s.settings [] = .ok [] := rfl
  refine ⟨o, tab, p, hparse, ?_, hpath, OptionStore.get_of_text? hrules, htab, ?_, ?_,
    OptionStore.get_of_text? hlog, hnames⟩
  · unfold OptionStore.configured
    rw [OptionStore.settingsOn_of_path hpath hsettings]
    rfl
  · unfold OptionStore.tailoringOf
    rw [eq_ok_of_toOption hform]
    change (Tailoring.ofRules none "a < b").mapError Failure.rule = _
    rw [htab]
    rfl
  · unfold OptionStore.collatorOf
    rw [eq_ok_of_toOption hstrength, eq_ok_of_toOption hp]
    rfl

/-- The rules put `a` before `b`. -/
theorem sortedLines_pair {tab : Tailoring} (h : Tailoring.ofRules none "a < b" = .ok tab)
    (processes : Value) :
    Collator.sortedLines ⟨tab, .tertiary, processes⟩ ["b", "a"] = ["a", "b"] := by
  have hkeys : (Tailoring.ofRules none "a < b").toOption.map (fun tab =>
      (tab.key .tertiary (some ['b'])).le (tab.key .tertiary (some ['a']))) = some false := by
    decide +kernel
  rw [h] at hkeys
  have hle : (Collator.key ⟨tab, .tertiary, processes⟩ (some ['b'])).le
    (Collator.key ⟨tab, .tertiary, processes⟩ (some ['a'])) = false := Option.some.inj hkeys
  unfold Collator.sortedLines
  simp [List.mergeSort, hle]

/-- A machine with an empty log file, and lines on its standard input. -/
def logMachine : Machine :=
  .ofTree ⟨[(["x.log"], .file [])]⟩ "/root" "/package" (Utf8.encode (Text.printed ["b", "a"]))
    "[now]: "

/-- The machine for another run, with new streams that take all that they are given. -/
def restarted (s : Machine) (unread : List UInt8) : Machine :=
  { Machine.ofTree s.tree s.homePath s.packagePath unread s.stampText with current := s.current }

theorem isSound_restarted (s : Machine) (unread : List UInt8) :
    (restarted s unread).IsSound := by
  obtain ⟨hout, herr, hstreams, hdevices⟩ :=
    Machine.isSound_ofTree s.tree s.homePath s.packagePath unread s.stampText
  exact ⟨hout, herr, hstreams, hdevices⟩

/-- A sort of the standard input that is logged, and a sort of what it prints. -/
theorem sort_prints_sorted_lines_logged : ∃ u u',
    runOn (sort (sortArguments "x.log" [])) logMachine = (.ok 0, u) ∧
    u.output = Text.printed ["a", "b"] ∧
    runOn (sort (sortArguments "x.log" []))
      (restarted u (Utf8.encode (Text.printed ["a", "b"]))) = (.ok 0, u') ∧
    u'.output = Text.printed ["a", "b"] := by
  obtain ⟨o, tab, p, hparse, hconfigured, hpath, hrules, htab, htailoring, hcollator, hlog, hnames⟩ :=
    exists_of_sortOptions (sortArguments "x.log" []) "x.log" [] (by decide +kernel) logMachine
  have hc : o.collatorOn logMachine = .ok ⟨tab, .tertiary, p⟩ := by
    unfold OptionStore.collatorOn
    rw [OptionStore.rulesOn_of_text hrules (List.cons_ne_nil _ _)]
    simp only [Except.bind]
    rw [htailoring]
    exact hcollator
  have hhas : o.HasLog logMachine := by
    refine ⟨_, hlog, fun _ => ⟨"x.log", ?_, by decide, ["x.log"], [], rfl, rfl⟩⟩
    rw [OptionStore.pathOn_of_text hlog, Machine.convert_of_no_sign _ rfl rfl]
  have hinputs : inputNames o = [inputName] := by
    unfold inputNames
    rw [hnames]
    rfl
  have hpair : Text.lines (Text.printed ["b", "a"]) = (["b", "a"] : List Text) := by
    decide +kernel
  obtain ⟨hprints, hreturns⟩ := runOn_sort_of_printed hparse hconfigured hc hhas hinputs rfl
    (Text.not_isLineBreak_of_lines hpair) fun hne => absurd rfl hne
  have hsound : logMachine.IsSound := Machine.isSound_ofTree ..
  obtain ⟨u, hrun⟩ := hreturns hsound
  have houtput := hprints u hrun
  rw [sortedLines_pair htab p] at houtput
  obtain ⟨o', c, texts, lines, -, -, -, -, -, hprinted, hagain⟩ :=
    sort_prints_sorted_lines hparse hrun (by rw [hinputs]; simp)
  have hsame : Text.printed ["a", "b"] = Text.printed lines := houtput.symm.trans hprinted
  rw [← hsame] at hagain
  have hagain' : { o with positional := [] } = o := by rw [← hnames]
  have hsources := OptionStore.readsSame_of_text hpath hconfigured hrules (List.cons_ne_nil _ _)
    (restarted u (Utf8.encode (Text.printed ["a", "b"])))
  obtain ⟨hprints', hreturns'⟩ := hagain (restarted u (Utf8.encode (Text.printed ["a", "b"])))
    (sortArguments "x.log" []) [] inputName ⟨(FileTree.extends_refl _).keeps, rfl, rfl, rfl⟩ hsources
    (hagain' ▸ hparse) (hagain' ▸ hinputs) rfl fun hne => absurd rfl hne
  obtain ⟨u', hrun'⟩ := hreturns' (isSound_restarted u _)
  exact ⟨u, u', hrun, houtput, hrun', hprints' u' hrun'⟩

/-- A machine with a file of two lines. -/
def inputMachine : Machine :=
  .ofTree ⟨[(["a.txt"], .file (Utf8.encode (Text.printed ["b", "a"])))]⟩ "/root" "/package" []
    "[now]: "

/-- What the log of the machine has once the table is made. -/
def loadedLine : Text :=
  "[now]: Loaded 2 collation elements in 2 primary groups."

/-- The machine with the file open as the log. -/
def openMachine : Machine :=
  { inputMachine with streams := [.new (.tree ["a.txt"]) fun _ => none] }

def inputLogger : Logger :=
  .ofStreams [.file 0, .messages] [.file 0] .time (some Logger.repeatSign)

/-- The machine once the table is made. -/
def loadedMachine : Machine :=
  openMachine.tell (loadedLine ++ ['\n']) inputLogger.streams

theorem isSound_loadedMachine : loadedMachine.IsSound := by
  obtain ⟨hout, herr, -, hdevices⟩ : inputMachine.IsSound := Machine.isSound_ofTree ..
  have hopen : openMachine.IsSound := by
    refine ⟨hout, herr, fun o ho => ?_, hdevices⟩
    obtain rfl := List.mem_singleton.mp ho
    exact OpenStream.isSound_new _ fun _ => rfl
  exact (openMachine.extends_tell _ _).sound hopen

theorem exec_logger_inputMachine (ha : a.logger = none)
    (hlog : a.options.get "log" = .ok (.text "a.txt")) :
    logger.exec a inputMachine = ⟨.ok inputLogger, { a with logger := some inputLogger },
      openMachine⟩ := by
  have hpath : exec a.options.logPath a inputMachine = ⟨.ok "a.txt", a, inputMachine⟩ := by
    rw [exec_logPath hlog (List.cons_ne_nil _ _), Machine.convert_of_no_sign _ rfl rfl]
    rfl
  rw [exec_logger_of_none ha, exec_bind_of_ok hpath]
  rfl

/-- The table is told to the log before the inputs are read. -/
theorem exec_sortLines_inputMachine : ∃ a c l,
    (sortLines (sortArguments "a.txt" ["a.txt"])).exec (App.ofOptions (.standard sortDescription))
      inputMachine = sortInputs.exec a loadedMachine ∧
    a.collator = some c ∧ a.logger = some l ∧ l.IsTidy ∧ inputNames a.options = ["a.txt"] := by
  obtain ⟨o, tab, p, hparse, hconfigured, -, hrules, htab, htailoring, hcollator, hlog, hnames⟩ :=
    exists_of_sortOptions (sortArguments "a.txt" ["a.txt"]) "a.txt" ["a.txt"] (by decide +kernel)
      inputMachine
  have hmessage : (Tailoring.ofRules none "a < b").toOption.map (fun tab =>
      App.loadedMessage tab.table) = some (loadedLine.drop 7) := by
    decide +kernel
  rw [htab] at hmessage
  have htold : App.loadedMessage tab.table = loadedLine.drop 7 := Option.some.inj hmessage
  have hnew : inputLogger.IsTidy := ⟨⟨[0], rfl⟩, ⟨[0], rfl⟩, rfl, Or.inl rfl⟩
  obtain ⟨l, htidy, hlogged⟩ : ∃ l, l.IsTidy ∧ (log (App.loadedMessage tab.table)).exec
      { App.ofOptions o with rules := some (.text "a < b") } inputMachine =
      ⟨.ok (), { App.ofOptions o with rules := some (.text "a < b"), logger := some l },
        loadedMachine⟩ := by
    refine ⟨_, hnew.log (isNotice_loadedMessage tab.table), ?_⟩
    rw [exec_log (exec_logger_inputMachine rfl hlog) rfl, htold]
    rfl
  have htailored := exec_tailoring_of_log (isNew_ofOptions o)
    (OptionStore.rulesOn_of_text hrules (List.cons_ne_nil _ _)) htailoring hlogged
  have hsetup : (setup (sortArguments "a.txt" ["a.txt"])).exec
      (.ofOptions (.standard sortDescription)) inputMachine =
        ⟨.ok (), .ofOptions o, inputMachine⟩ := by
    rw [exec_setup (a := .ofOptions (.standard sortDescription)) hparse, hconfigured]
    rfl
  refine ⟨{ App.ofOptions o with
    rules := some (.text "a < b"), logger := some l, tailoring := some tab,
    collator := some ⟨tab, .tertiary, p⟩ }, ⟨tab, .tertiary, p⟩, l, ?_, rfl, rfl, htidy, ?_⟩
  · rw [sortLines_eq, exec_bind_of_ok hsetup,
      exec_bind_of_ok (exec_collator_of_tailoring rfl htailored hcollator)]
  · change inputNames o = _
    unfold inputNames
    rw [hnames]
    rfl

/-- A sort whose log is its input. The line that tells of the table is in the file when it is read,
and so in the output. -/
theorem sort_prints_logged_line : ∃ u lines,
    runOn (sort (sortArguments "a.txt" ["a.txt"])) inputMachine = (.ok 0, u) ∧
    inputMachine.inputTexts ["a.txt"] = .ok [Text.printed ["b", "a"]] ∧
    u.output = Text.printed lines ∧ lines.Perm ["b", "a", loadedLine] ∧
    ∀ sorted : List Text, sorted.Perm ["b", "a"] → u.output ≠ Text.printed sorted := by
  obtain ⟨a, c, l, hexec, hc, hl, htidy, hnames⟩ := exec_sortLines_inputMachine
  have htexts : loadedMachine.inputTexts (inputNames a.options) =
      .ok [Text.printed ["b", "a", loadedLine]] := by
    rw [hnames]
    exact eq_ok_of_toOption (by decide +kernel)
  obtain ⟨hprints, hreturns⟩ := runOn_sort_of_texts hexec hc hl htidy htexts
  obtain ⟨u, hrun⟩ := hreturns isSound_loadedMachine
  have hprinted := hprints u hrun
  have hpair : Text.lines (Text.printed ["b", "a"]) = (["b", "a"] : List Text) := by
    decide +kernel
  have htriple : Text.lines (Text.printed ["b", "a", loadedLine]) =
      (["b", "a", loadedLine] : List Text) := by decide +kernel
  rw [List.flatMap_singleton, htriple] at hprinted
  have houtput : u.output = Text.printed (c.sortedLines ["b", "a", loadedLine]) := hprinted
  have hperm : (c.sortedLines ["b", "a", loadedLine]).Perm ["b", "a", loadedLine] :=
    List.mergeSort_perm _ _
  refine ⟨u, _, hrun, eq_ok_of_toOption (by decide +kernel), houtput, hperm, ?_⟩
  intro sorted hsorted hequal
  -- The output has three lines.
  have hlines := Text.eq_of_printed_eq
    (fun line hline => Text.not_isLineBreak_of_lines hpair line (hsorted.mem_iff.mp hline))
    (fun line hline => Text.not_isLineBreak_of_lines htriple line (hperm.mem_iff.mp hline))
    (hequal.symm.trans houtput)
  rw [hlines] at hsorted
  exact absurd (hperm.length_eq.symm.trans hsorted.length_eq) (by decide)

end Collation.Command
