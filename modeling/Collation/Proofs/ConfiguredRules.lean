import Collation.Proofs.Config.Meaning
import Collation.Proofs.Config.Setting
import Collation.Proofs.Option.Standard
import Collation.Proofs.Run.Parts

/-! Rules of a configuration file mean the same as rules of the command line. What the file sets is
read as a literal where it can be, and then the text that it stands for is meant. -/

namespace Collation

open OptionStore Program

variable {description rules text path path' content : Text} {argv argv' : List Text}
  {o o' : OptionStore} {vs : Config.Values} {s s' : Machine} {l l' : Logger} {a : App} {v : Value}
  {form : Option Form}

/-- The value of rules that a configuration file sets on one line. -/
theorem Machine.rules_of_settings (hstrip : Text.strip rules = rules) (hne : rules ≠ [])
    (hcontent : s.fileText path = .ok content)
    (hsets : Config.SetsRules configSection rules (Config.fileLines content))
    (hsettings : s.settings path = .ok vs) :
    ∃ v, Config.evaluate rules = .ok v ∧ vs.last? "rules" = some v := by
  obtain ⟨bytes, t, hfile, hdecode, rfl⟩ := fileText_eq_ok hcontent
  unfold settings at hsettings
  rw [hfile] at hsettings
  obtain ⟨sections, hread, rfl⟩ := map_eq_ok hsettings
  unfold Config.read at hread
  rw [Config.linesOfBytes_of_decode hdecode] at hread
  obtain ⟨⟨lines, fault⟩, hlines, hread⟩ := bind_eq_ok hread
  obtain ⟨rfl, rfl⟩ := Prod.mk.inj (Except.ok.inj hlines)
  obtain ⟨r, hr, hread⟩ := bind_eq_ok hread
  obtain ⟨layout, hlayout, hvalues⟩ := bind_eq_ok hread
  obtain ⟨v, hv, hlast⟩ := Config.rules_of_layout hstrip hne hsets (mapError_eq_ok hr)
    (mapError_eq_ok hlayout) hvalues
  exact ⟨v, hv, (Config.Values.last?_putAll_nil _ _).trans hlast⟩

/-- The table of an application that has just been set up, if its log can be opened. -/
theorem Program.result_setup_tailoring (hparse : (standard description).parse argv = .ok o)
    (hconfig : o.settingsOn s = .ok vs)
    (hrules : (o.updateDefaults vs).get "rules" = .ok (.text text))
    (hne : text ≠ []) (hform : (o.updateDefaults vs).form = .ok form)
    (hlog : (logger.exec (.ofOptions (o.updateDefaults vs)) s).result = .ok l) :
    (exec (do setup argv; tailoring) (.ofOptions (.standard description)) s).result =
      (Tailoring.ofRules form text).mapError .rule := by
  have hsetup := exec_setup_of_settings (a := .ofOptions (.standard description)) hparse hconfig
  have hresult := result_tailoring (a := .ofOptions (o.updateDefaults vs)) ⟨rfl, rfl, rfl, rfl⟩
    (rulesOn_of_text hrules hne) hlog
  rw [exec_bind_of_ok hsetup]
  refine Eq.trans hresult ?_
  change ((o.updateDefaults vs).form.bind fun form => App.tailoringOf form (.text text)) = _
  rw [hform]
  rfl

/-- A run whose configuration file sets rules makes the table of a run to which the command line
gives the text that they stand for, under the same form. -/
theorem configured_rules_as_given (hstrip : Text.strip rules = rules)
    (hparse : (standard description).parse argv = .ok o)
    (hrules : lastArguments? "--rules" (splitArguments argv.tail).groups = none)
    (hpath : o.pathOn "config" s = .ok path) (hcontent : s.fileText path = .ok content)
    (hsets : Config.SetsRules configSection rules (Config.fileLines content))
    (hsettings : s.settings path = .ok vs) (hstands : Config.StandsFor rules text)
    (hne : text ≠ []) (hform : (o.updateDefaults vs).form = .ok form)
    (hlog : (logger.exec (.ofOptions (o.updateDefaults vs)) s).result = .ok l)
    (hparse' : (standard description).parse argv' = .ok o')
    (hrules' : lastArguments? "--rules" (splitArguments argv'.tail).groups = some [text])
    (hpath' : o'.pathOn "config" s' = .ok path') (hmissing : s'.file path' = .error .notFound)
    (hform' : o'.form = .ok form)
    (hlog' : (logger.exec (.ofOptions o') s').result = .ok l') :
    (exec (do setup argv; ruleText) (.ofOptions (.standard description)) s).result =
      .ok (.text text) ∧
    (exec (do setup argv'; ruleText) (.ofOptions (.standard description)) s').result =
      .ok (.text text) ∧
    (exec (do setup argv; tailoring) (.ofOptions (.standard description)) s).result =
      (Tailoring.ofRules form text).mapError .rule ∧
    (exec (do setup argv'; tailoring) (.ofOptions (.standard description)) s').result =
      (Tailoring.ofRules form text).mapError .rule := by
  have hset : rules ≠ [] := by
    rintro rfl
    have hempty : Config.evaluate [] = .ok (.text []) := rfl
    exact hne (Value.text.inj (hstands.eq_text hempty)).symm
  have hconfig := settingsOn_of_path hpath hsettings
  have hmissing' : s'.settings path' = .ok [] := by
    rw [Machine.settings, hmissing]
  have hconfig' := settingsOn_of_path hpath' hmissing'
  -- Both runs come to the same value of the option.
  have hget : (o.updateDefaults vs).get "rules" = .ok (.text text) := by
    obtain ⟨v, hv, hlast⟩ := Machine.rules_of_settings hstrip hset hcontent hsets hsettings
    obtain rfl := hstands.eq_text hv
    rw [get_rules_of_not_given hparse hrules vs, hlast]
    rfl
  have hget' : (o'.updateDefaults []).get "rules" = .ok (.text text) :=
    get_rules_of_given hparse' hrules' []
  refine ⟨?_, ?_, ?_, ?_⟩
  · rw [result_setup_ruleText (a := .ofOptions (.standard description)) hparse hconfig rfl]
    exact rulesOn_of_text hget hne
  · rw [result_setup_ruleText (a := .ofOptions (.standard description)) hparse' hconfig' rfl]
    exact rulesOn_of_text hget' hne
  · exact result_setup_tailoring hparse hconfig hget hne hform hlog
  · exact result_setup_tailoring hparse' hconfig' hget' hne hform' hlog'

/-- A machine with a configuration file that sets rules. -/
def rulesMachine (rules : Text) : Machine :=
  .ofTree ⟨[(["c.cfg"], .file (Utf8.encode ("[collator]\nrules = " ++ rules ++ "\n")))]⟩ "/root"
    "/package" [] "[now]: "

def configuredArguments : List Text :=
  ["program", "--config=c.cfg", "--normalization=none"]

def givenArguments (rules : Text) : List Text :=
  ["program", "--rules=" ++ rules, "--config=", "--normalization=none"]

/-- What the options of a run come to that decide its table. -/
def tableOptions (o : OptionStore) (vs : Config.Values) :
    Option Text × Option (Option Form) × Option Text :=
  ((o.updateDefaults vs).text? "rules", (o.updateDefaults vs).form.toOption,
    (o.updateDefaults vs).text? "log")

theorem exists_tableOptions (path : Text) (hargv : ((standard description).parse argv).toOption.map
      (text? · "config") = some (some path))
    (hpackage : packageSign.isPrefixOf path = false) (huser : userSign.isPrefixOf path = false)
    (hoptions : ((standard description).parse argv).toOption.bind (fun o =>
      (s.settings path).toOption.map (tableOptions o)) = some (some text, some form, some [])) :
    ∃ o vs l, (standard description).parse argv = .ok o ∧ o.pathOn "config" s = .ok path ∧
      s.settings path = .ok vs ∧ (o.updateDefaults vs).get "rules" = .ok (.text text) ∧
      (o.updateDefaults vs).form = .ok form ∧
      (logger.exec (.ofOptions (o.updateDefaults vs)) s).result = .ok l := by
  obtain ⟨o, vs, hparse, hpath, hsettings, h⟩ :=
    exists_of_settings path tableOptions hargv hpackage huser hoptions
  obtain ⟨hrules, hrest⟩ := Prod.mk.inj h
  obtain ⟨hform, hlog⟩ := Prod.mk.inj hrest
  obtain ⟨l, b, hlogger⟩ := exec_logger_of_no_log (a := .ofOptions (o.updateDefaults vs)) (s := s)
    rfl (get_of_text? hlog) rfl
  exact ⟨o, vs, l, hparse, hpath, hsettings, get_of_text? hrules, eq_ok_of_toOption hform,
    by rw [hlogger]⟩

theorem setsRules_rulesMachine (rules : Text) :
    Config.SetsRules configSection rules
      ["[collator]\n".toList, "rules = ".toList ++ rules ++ "\n".toList] :=
  ⟨["[collator]\n"], "\n", [], ⟨⟨[], [⟨"collator", []⟩]⟩, .named "collator", none, 0, []⟩, rfl, rfl,
    rfl, rfl, rfl⟩

theorem relates_plain : Rule.Relates "a < b" := by
  have hfits (c : Char) (hc : c ∈ ['a', 'b']) (rest : Text) : (Rule.Piece.plain c).Fits rest := by
    obtain rfl | rfl : c = 'a' ∨ c = 'b' := by simpa using hc
    all_goals exact ⟨rfl, by intro r; cases r <;> decide, by decide, rfl⟩
  have hline : ("a < b" : Text).all (fun c => c ≠ '\n' && c ≠ '\r') = true := rfl
  refine ⟨fun c hc => by simpa using List.all_eq_true.mp hline c hc, _,
    .piece (.plain 'a') (hfits 'a' (by simp) _) (.space rfl (.operator .primary (.space rfl
      (.piece (.plain 'b') (hfits 'b' (by simp) _) .done)))), ?_,
    .primary, 2, nofun, List.mem_cons_of_mem _ List.mem_cons_self⟩
  intro p n hp
  simp only [List.mem_cons, Rule.Item.piece.injEq, List.not_mem_nil, or_false] at hp
  obtain ⟨rfl, -⟩ | hp | ⟨rfl, -⟩ := hp
  · trivial
  · contradiction
  · trivial

/-- Rules that relate elements, in a file and on a command line. -/
theorem configured_rules_as_given_plain : ∃ tab : Tailoring, tab.table.size = 2 ∧
    (exec (do setup configuredArguments; tailoring) (.ofOptions (.standard []))
      (rulesMachine "a < b")).result = .ok tab ∧
    (exec (do setup (givenArguments "a < b"); tailoring) (.ofOptions (.standard []))
      (rulesMachine "a < b")).result = .ok tab := by
  let s := rulesMachine "a < b"
  obtain ⟨o, vs, l, hparse, hpath, hsettings, -, hform, hlog⟩ :
      ∃ o vs l, (standard []).parse configuredArguments = .ok o ∧
        o.pathOn "config" s = .ok "c.cfg" ∧ s.settings "c.cfg" = .ok vs ∧
        (o.updateDefaults vs).get "rules" = .ok (.text "a < b") ∧
        (o.updateDefaults vs).form = .ok none ∧
        (logger.exec (.ofOptions (o.updateDefaults vs)) s).result = .ok l :=
    exists_tableOptions "c.cfg" (by decide +kernel) (by decide) (by decide) (by decide +kernel)
  obtain ⟨o', vs', l', hparse', hpath', hsettings', -, hform', hlog'⟩ :
      ∃ o' vs' l', (standard []).parse (givenArguments "a < b") = .ok o' ∧
        o'.pathOn "config" s = .ok [] ∧ s.settings [] = .ok vs' ∧
        (o'.updateDefaults vs').get "rules" = .ok (.text "a < b") ∧
        (o'.updateDefaults vs').form = .ok none ∧
        (logger.exec (.ofOptions (o'.updateDefaults vs')) s).result = .ok l' :=
    exists_tableOptions [] (by decide +kernel) (by decide) (by decide) (by decide +kernel)
  obtain rfl : [] = vs' := Except.ok.inj hsettings'
  obtain ⟨tab, htab, hsize⟩ : ∃ tab, Tailoring.ofRules none "a < b" = .ok tab ∧
      tab.table.size = 2 := exists_of_toOption (by decide +kernel)
  have hcontent : s.fileText "c.cfg" = .ok "[collator]\nrules = a < b\n" :=
    eq_ok_of_toOption (by decide +kernel)
  have hstands : Config.StandsFor "a < b" "a < b" := .related relates_plain
  have hlast : lastArguments? "--rules" (splitArguments configuredArguments.tail).groups = none :=
    by decide
  have hlast' : lastArguments? "--rules" (splitArguments (givenArguments "a < b").tail).groups =
      some ["a < b".toList] := by decide
  have htables := configured_rules_as_given rfl hparse hlast hpath hcontent
    (setsRules_rulesMachine "a < b") hsettings hstands (List.cons_ne_nil _ _) hform hlog hparse'
    hlast' hpath' rfl hform' hlog'
  rw [htab] at htables
  exact ⟨tab, hsize, htables.2.2.1, htables.2.2.2⟩

/-- Rules in quotes, which are quotes of one element on a command line, but stand for the text
between the quotes in a configuration file. -/
theorem configured_rules_quoted :
    let rules : Text := "'b<a'"
    Text.strip rules = rules ∧ ∃ tab tab' : Tailoring,
      (exec (do setup configuredArguments; tailoring) (.ofOptions (.standard []))
        (rulesMachine rules)).result = .ok tab ∧
      (exec (do setup (givenArguments rules); tailoring) (.ofOptions (.standard []))
        (rulesMachine rules)).result = .ok tab' ∧
      tab.table.size = 2 ∧ tab'.table.size = 1 := by
  intro rules
  let s := rulesMachine rules
  obtain ⟨o, vs, l, hparse, hpath, hsettings, hget, hform, hlog⟩ :
      ∃ o vs l, (standard []).parse configuredArguments = .ok o ∧
        o.pathOn "config" s = .ok "c.cfg" ∧ s.settings "c.cfg" = .ok vs ∧
        (o.updateDefaults vs).get "rules" = .ok (.text "b<a") ∧
        (o.updateDefaults vs).form = .ok none ∧
        (logger.exec (.ofOptions (o.updateDefaults vs)) s).result = .ok l :=
    exists_tableOptions "c.cfg" (by decide +kernel) (by decide) (by decide) (by decide +kernel)
  obtain ⟨o', vs', l', hparse', hpath', hsettings', hget', hform', hlog'⟩ :
      ∃ o' vs' l', (standard []).parse (givenArguments rules) = .ok o' ∧
        o'.pathOn "config" s = .ok [] ∧ s.settings [] = .ok vs' ∧
        (o'.updateDefaults vs').get "rules" = .ok (.text rules) ∧
        (o'.updateDefaults vs').form = .ok none ∧
        (logger.exec (.ofOptions (o'.updateDefaults vs')) s).result = .ok l' :=
    exists_tableOptions [] (by decide +kernel) (by decide) (by decide) (by decide +kernel)
  obtain ⟨tab, htab, hsize⟩ : ∃ tab, Tailoring.ofRules none "b<a" = .ok tab ∧
      tab.table.size = 2 := exists_of_toOption (by decide +kernel)
  obtain ⟨tab', htab', hsize'⟩ : ∃ tab, Tailoring.ofRules none rules = .ok tab ∧
      tab.table.size = 1 := exists_of_toOption (by decide +kernel)
  have hresult := result_setup_tailoring hparse (settingsOn_of_path hpath hsettings) hget
    (List.cons_ne_nil _ _) hform hlog
  have hresult' := result_setup_tailoring hparse' (settingsOn_of_path hpath' hsettings') hget'
    (List.cons_ne_nil _ _) hform' hlog'
  rw [htab] at hresult
  rw [htab'] at hresult'
  exact ⟨rfl, tab, tab', hresult, hresult', hsize, hsize'⟩

end Collation
