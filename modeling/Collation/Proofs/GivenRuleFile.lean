import Collation.Proofs.Option.Standard
import Collation.Proofs.Run.Setup

/-! Runs whose command line gives a rule file. Rules that the configuration file sets itself come
before the rule file, and a rule file that it names does not. -/

namespace Collation

open OptionStore Program

variable {description name : Text} {argv : List Text} {o : OptionStore} {vs : Config.Values}
  {s : Machine}

/-- The rule file of the command line is read unless there are rules. -/
theorem OptionStore.rulesOn_of_given_file (hparse : (standard description).parse argv = .ok o)
    (hfile : lastArguments? "--rules-file" (splitArguments argv.tail).groups = some [name])
    (hrules : lastArguments? "--rules" (splitArguments argv.tail).groups = none) (s : Machine) :
    (o.updateDefaults vs).rulesOn s = match (vs.last? "rules").filter Value.isTruthy with
      | some rules => .ok rules
      | none => (s.fileText (s.pathRules.convert name)).map fun content =>
          .text (Rule.decodeFile Rule.commentSign content) := by
  have hget := get_rules_of_not_given hparse hrules vs
  have hpath := pathOn_of_text (get_rulesFile_of_given hparse hfile vs) s
  unfold rulesOn
  rw [hget, hpath]
  cases hlast : vs.last? "rules" with
  | none => rfl
  | some rules =>
    change (if rules.isTruthy then _ else _) = _
    rw [Option.filter_some]
    by_cases htruthy : rules.isTruthy = true
    · rw [if_pos htruthy, if_pos htruthy]
      rfl
    · rw [if_neg htruthy, if_neg htruthy]
      rfl

/-- If the command line gives a rule file and no rules, the rule text is that of the file, whatever
rule file the configuration file names. Only rules that the configuration file sets itself come
before it. -/
theorem ruleText_of_given_rule_file (hparse : (standard description).parse argv = .ok o)
    (hfile : lastArguments? "--rules-file" (splitArguments argv.tail).groups = some [name])
    (hrules : lastArguments? "--rules" (splitArguments argv.tail).groups = none)
    (hconfig : o.settingsOn s = .ok vs) :
    (exec (do setup argv; ruleText) (App.ofOptions (.standard description)) s).result =
      match (vs.get? "rules").filter Value.isTruthy with
      | some rules => .ok rules
      | none => (s.fileText (s.pathRules.convert name)).map fun content =>
          .text (Rule.decodeFile Rule.commentSign content) := by
  have hresult := result_setup_ruleText (a := App.ofOptions (.standard description))
    hparse hconfig rfl
  rw [hresult, rulesOn_of_given_file hparse hfile hrules, last?_of_settingsOn hconfig]

/-- A machine with a configuration file and a rule file. -/
def ruleFileMachine (config : Text) : Machine :=
  .ofTree ⟨[(["c.cfg"], .file (Utf8.encode config)), (["r.rules"], .file (Utf8.encode "b < c\n"))]⟩
    "/root" "/package" [] "[now]: "

def ruleFileArguments : List Text :=
  ["program", "--config=c.cfg", "--rules-file=r.rules"]

theorem lastArguments?_ruleFileArguments :
    lastArguments? "--rules-file" (splitArguments ruleFileArguments.tail).groups =
      some ["r.rules".toList] ∧
    lastArguments? "--rules" (splitArguments ruleFileArguments.tail).groups = none := by
  decide

/-- A configuration file that names another rule file. -/
theorem ruleText_of_given_rule_file_named :
    (exec (do setup ruleFileArguments; ruleText) (App.ofOptions (.standard []))
      (ruleFileMachine "[collator]\nrules_file = 'x'\n")).result = .ok (.text "b < c") := by
  let s := ruleFileMachine "[collator]\nrules_file = 'x'\n"
  obtain ⟨o, vs, hparse, hpath, hsettings, hrules⟩ :
      ∃ o vs, (standard []).parse ruleFileArguments = .ok o ∧ o.pathOn "config" s = .ok "c.cfg" ∧
        s.settings "c.cfg" = .ok vs ∧ (vs.get? "rules").isNone = true :=
    exists_of_settings "c.cfg" (fun _ vs => (vs.get? "rules").isNone) (by decide +kernel) (by decide)
      (by decide) (by decide +kernel)
  obtain ⟨hfile, hgiven⟩ := lastArguments?_ruleFileArguments
  have hresult := ruleText_of_given_rule_file hparse hfile hgiven
    (settingsOn_of_path hpath hsettings)
  have hcontent : s.fileText "r.rules" = .ok "b < c\n" :=
    eq_ok_of_toOption (by decide +kernel)
  rw [Option.isNone_iff_eq_none.mp hrules, s.convert_of_no_sign (by decide) (by decide),
    hcontent] at hresult
  rw [hresult]
  rfl

/-- A configuration file that sets rules itself, which count in place of the file that the command
line gives. -/
theorem ruleText_of_configured_rules :
    let s := ruleFileMachine "[collator]\nrules = 'a'\n"
    (exec (do setup ruleFileArguments; ruleText) (App.ofOptions (.standard [])) s).result =
      .ok (.text "a") ∧
    (s.fileText (s.pathRules.convert "r.rules")).map (Rule.decodeFile Rule.commentSign) =
      .ok "b < c" := by
  intro s
  obtain ⟨o, vs, hparse, hpath, hsettings, hrules⟩ :
      ∃ o vs, (standard []).parse ruleFileArguments = .ok o ∧ o.pathOn "config" s = .ok "c.cfg" ∧
        s.settings "c.cfg" = .ok vs ∧ vs.text? "rules" = some "a".toList :=
    exists_of_settings "c.cfg" (fun _ vs => vs.text? "rules") (by decide +kernel) (by decide)
      (by decide) (by decide +kernel)
  have hcontent : s.fileText "r.rules" = .ok "b < c\n" :=
    eq_ok_of_toOption (by decide +kernel)
  obtain ⟨hfile, hgiven⟩ := lastArguments?_ruleFileArguments
  have hconfig := settingsOn_of_path hpath hsettings
  refine ⟨?_, ?_⟩
  · rw [result_setup_ruleText hparse hconfig rfl, rulesOn_of_given_file hparse hfile hgiven,
      last?_of_settingsOn hconfig, Config.Values.get?_of_text? hrules]
    rfl
  · rw [s.convert_of_no_sign (by decide) (by decide), hcontent]
    rfl

end Collation
