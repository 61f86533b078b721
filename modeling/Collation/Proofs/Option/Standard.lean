import Collation.Option.Standard
import Collation.Proofs.Option.Calls

/-! The standard options after a command line and a configuration file. -/

namespace Collation.OptionStore

open Config

def standardDeclarations : List Declaration :=
  standardOptions.map fun (name, default, description) => ⟨name, default, description⟩

variable {description : Text} {d : Declaration} {o : OptionStore} {argv as : List Text}
  {vs : Values} {name text : Text}

theorem standard_eq_declared (description : Text) :
    standard description = declared description standardConstants standardDeclarations := rfl

theorem nodup_standardDeclarations : (standardDeclarations.map Declaration.valueName).Nodup := by
  decide

/-- The value that a command line and a configuration file give to a standard option. -/
theorem get_configured (hparse : (standard description).parse argv = .ok o)
    (hd : d ∈ standardDeclarations) (vs : Values) :
    (o.updateDefaults vs).get d.valueName =
      ((lastArguments? d.key (splitArguments argv.tail).groups).map
        (d.spec.kind.convert d.key)).getD (.ok ((updated? d (.update vs)).getD d.default)) := by
  obtain ⟨v, hv, hdue⟩ := get_calls nodup_standardDeclarations hd
    (standard_eq_declared description) [.parse argv, .update vs]
  have hcalls : (standard description).calls [.parse argv, .update vs] = o.updateDefaults vs := by
    change (((standard description).parse argv).toOption.getD _).updateDefaults vs = _
    rw [hparse]
    rfl
  have hgiven : (standard description).given? d (.parse argv) =
      (lastArguments? d.key (splitArguments argv.tail).groups).map
        (d.spec.kind.convert d.key) := by
    simp only [given?, hparse]
    rfl
  have hgives : [Call.parse argv, .update vs].reverse.findSome?
      ((standard description).given? d) = (standard description).given? d (.parse argv) := by
    have hupdate : (standard description).given? d (.update vs) = none := rfl
    change [Call.update vs, .parse argv].findSome? _ = _
    simp only [List.findSome?_cons, hupdate]
    cases (standard description).given? d (.parse argv) <;> rfl
  have hupdates : [Call.parse argv, .update vs].reverse.findSome? (updated? d) =
      updated? d (.update vs) := by
    have hparse : updated? d (.parse argv) = none := rfl
    change [Call.update vs, .parse argv].findSome? _ = _
    simp only [List.findSome?_cons, hparse]
    cases updated? d (.update vs) <;> rfl
  rw [hcalls] at hv
  rw [hv, ← hdue, due, hgives, hupdates, hgiven]

/-- What the command line gives counts, whatever the configuration file sets. -/
theorem get_configured_of_given (hparse : (standard description).parse argv = .ok o)
    (hd : d ∈ standardDeclarations)
    (hgiven : lastArguments? d.key (splitArguments argv.tail).groups = some as) (vs : Values) :
    (o.updateDefaults vs).get d.valueName = d.spec.kind.convert d.key as := by
  rw [get_configured hparse hd, hgiven]
  rfl

theorem get_configured_of_not_given (hparse : (standard description).parse argv = .ok o)
    (hd : d ∈ standardDeclarations)
    (hgiven : lastArguments? d.key (splitArguments argv.tail).groups = none) (vs : Values) :
    (o.updateDefaults vs).get d.valueName =
      .ok ((updated? d (.update vs)).getD d.default) := by
  rw [get_configured hparse hd, hgiven]
  rfl

/-! A name without low lines is written in one way only. -/

theorem nameOf_of_no_hyphen (h : '-' ∉ name) : nameOf name = name := by
  have hkeep : ∀ c ∈ name, (if c = '-' then '_' else c) = c := by
    intro c hc
    apply if_neg
    rintro rfl
    exact h hc
  exact (List.map_congr_left hkeep).trans (List.map_id name)

theorem no_hyphen_of_no_low_line (h : '_' ∉ nameOf name) : '-' ∉ name := by
  intro hmem
  apply h
  exact List.mem_map.mpr ⟨'-', hmem, if_pos rfl⟩

theorem updated?_of_no_low_line (hname : '_' ∉ d.valueName) (vs : Values) :
    updated? d (.update vs) = vs.last? d.valueName := by
  have hself : nameOf d.valueName = d.valueName := by
    have hno : nameOf d.name = d.name := nameOf_of_no_hyphen (no_hyphen_of_no_low_line hname)
    rw [Declaration.valueName, hno, hno]
  unfold Values.last?
  change (vs.reverse.find? fun p => nameOf p.1 = d.valueName).map Prod.snd = _
  induction vs.reverse with
  | nil => rfl
  | cons p vs ih =>
    obtain ⟨key, v⟩ := p
    rw [List.find?_cons]
    by_cases hkey : d.valueName = key
    · rw [← hkey, hself, decide_eq_true rfl, List.lookup_cons_self]
      rfl
    · have hne : nameOf key ≠ d.valueName := by
        intro h
        have hsame : nameOf key = key := by
          apply nameOf_of_no_hyphen
          apply no_hyphen_of_no_low_line
          rwa [h]
        exact hkey (h.symm.trans hsame)
      rw [decide_eq_false hne, lookup_cons_of_ne hkey]
      exact ih

/-! Where the rules come from. -/

theorem exists_rulesDeclaration : ∃ d ∈ standardDeclarations, d.valueName = "rules" ∧
    d.key = "--rules" ∧ d.spec.kind = .text ∧ d.default = .text [] :=
  ⟨standardDeclarations[1], List.getElem_mem _, rfl, rfl, rfl, rfl⟩

theorem exists_rulesFileDeclaration : ∃ d ∈ standardDeclarations, d.valueName = "rules_file" ∧
    d.key = "--rules-file" ∧ d.spec.kind = .text :=
  ⟨standardDeclarations[2], List.getElem_mem _, rfl, rfl, rfl⟩

/-- Rules that the command line gives count as they are. -/
theorem get_rules_of_given (hparse : (standard description).parse argv = .ok o)
    (hgiven : lastArguments? "--rules" (splitArguments argv.tail).groups = some [text])
    (vs : Values) : (o.updateDefaults vs).get "rules" = .ok (.text text) := by
  obtain ⟨d, hd, hname, hkey, hkind, -⟩ := exists_rulesDeclaration
  rw [← hkey] at hgiven
  have hget := get_configured_of_given hparse hd hgiven vs
  rw [hname, hkind] at hget
  exact hget

/-- Other rules are those of the configuration file, if it has any. -/
theorem get_rules_of_not_given (hparse : (standard description).parse argv = .ok o)
    (hgiven : lastArguments? "--rules" (splitArguments argv.tail).groups = none) (vs : Values) :
    (o.updateDefaults vs).get "rules" = .ok ((vs.last? "rules").getD (.text [])) := by
  obtain ⟨d, hd, hname, hkey, -, hdefault⟩ := exists_rulesDeclaration
  rw [← hkey] at hgiven
  have hget := get_configured_of_not_given hparse hd hgiven vs
  have hwritten : '_' ∉ d.valueName := by
    rw [hname]
    decide
  rw [updated?_of_no_low_line hwritten, hname, hdefault] at hget
  exact hget

theorem get_rulesFile_of_given (hparse : (standard description).parse argv = .ok o)
    (hgiven : lastArguments? "--rules-file" (splitArguments argv.tail).groups = some [text])
    (vs : Values) : (o.updateDefaults vs).get "rules_file" = .ok (.text text) := by
  obtain ⟨d, hd, hname, hkey, hkind⟩ := exists_rulesFileDeclaration
  rw [← hkey] at hgiven
  have hget := get_configured_of_given hparse hd hgiven vs
  rw [hname, hkind] at hget
  exact hget

end Collation.OptionStore
