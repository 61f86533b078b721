import Collation.Proofs.Run.Parts

/-! What the parts of an application are made from: options that are no arguments, the configuration
file, and the rule file. -/

namespace Collation.OptionStore

variable {o o' : OptionStore} {name : Text} {s t : Machine}

/-! The arguments of a command line are no part of the options. -/

theorem get_positional (h : name ≠ "_args") (names : List Text) :
    { o with positional := names }.get name = o.get name := by
  have hinner : { o with positional := names }.inner.get? name = o.inner.get? name := by
    unfold inner Config.Values.get?
    by_cases hdescription : name = "_app_description"
    · rw [hdescription, List.lookup_cons_self, List.lookup_cons_self]
    · rw [lookup_cons_of_ne hdescription, lookup_cons_of_ne hdescription, lookup_cons_of_ne h,
        lookup_cons_of_ne h]
  unfold get
  simp only [List.findSome?_cons, hinner]

theorem pathOn_positional (h : name ≠ "_args") (names : List Text) (s : Machine) :
    { o with positional := names }.pathOn name s = o.pathOn name s := by
  unfold pathOn
  rw [get_positional h]

theorem configured_positional (names : List Text) (s : Machine) :
    { o with positional := names }.configured s =
      (o.configured s).map fun o' => { o' with positional := names } := by
  unfold configured settingsOn
  rw [pathOn_positional (by decide)]
  cases o.pathOn "config" s with
  | error e => rfl
  | ok path =>
    simp only [Except.bind]
    cases s.settings path <;> rfl

theorem collatorOn_positional (names : List Text) (s : Machine) :
    { o with positional := names }.collatorOn s = o.collatorOn s := by
  have hpath : { o with positional := names }.pathOn "rules_file" s = o.pathOn "rules_file" s :=
    pathOn_positional (by decide) names s
  have hget : ∀ name ∈ ["rules".toList, "normalization".toList, "strength".toList,
      "processes".toList], { o with positional := names }.get name = o.get name := by
    intro name hname
    apply get_positional
    rintro rfl
    exact absurd hname (by decide)
  unfold collatorOn rulesOn tailoringOf collatorOf form strength
  simp only [hpath, hget _ (by simp : "rules".toList ∈ _),
    hget _ (by simp : "normalization".toList ∈ _),
    hget _ (by simp : "strength".toList ∈ _), hget _ (by simp : "processes".toList ∈ _)]

theorem HasLog.positional (h : o.HasLog s) (names : List Text) :
    { o with positional := names }.HasLog s := by
  obtain ⟨v, hget, hfile⟩ := h
  refine ⟨v, (get_positional (by decide) names).trans hget, fun htruthy => ?_⟩
  obtain ⟨path, hpath, hthere⟩ := hfile htruthy
  exact ⟨path, (pathOn_positional (by decide) names s).trans hpath, hthere⟩

/-! What is read from files. -/

/-- The configuration file, and the rule file unless there are rules, are on a machine what they are
on another. -/
structure ReadsSame (o : OptionStore) (s t : Machine) : Prop where
  config {path : Text} (h : o.pathOn "config" s = .ok path) : t.file path = s.file path
  rules {o' : OptionStore} {v : Value} {path : Text} (h : o.configured s = .ok o')
    (hget : o'.get "rules" = .ok v) (hv : v.isTruthy = false)
    (hpath : o'.pathOn "rules_file" s = .ok path) : t.file path = s.file path

/-- With rules and no configuration file, no file is read. -/
theorem readsSame_of_text {text : Text} (hpath : o.pathOn "config" s = .ok [])
    (hconfigured : o.configured s = .ok o') (hrules : o'.get "rules" = .ok (.text text))
    (hne : text ≠ []) (t : Machine) : o.ReadsSame s t := by
  constructor
  · intro path hgiven
    obtain rfl : [] = path := Except.ok.inj (hpath.symm.trans hgiven)
    rfl
  · intro o'' v path hgiven hget hv
    obtain rfl : o' = o'' := Except.ok.inj (hconfigured.symm.trans hgiven)
    obtain rfl : .text text = v := Except.ok.inj (hrules.symm.trans hget)
    have hempty : text.isEmpty = true := by simpa [Value.isTruthy] using hv
    exact absurd (List.isEmpty_iff.mp hempty) hne

theorem pathOn_congr (h : t.pathRules = s.pathRules) (name : Text) :
    o.pathOn name t = o.pathOn name s := by
  unfold pathOn
  rw [h]

theorem ReadsSame.configured (h : o.ReadsSame s t) (hpaths : t.pathRules = s.pathRules) :
    o.configured t = o.configured s := by
  unfold OptionStore.configured settingsOn
  rw [pathOn_congr hpaths]
  cases hpath : o.pathOn "config" s with
  | error e => rfl
  | ok path =>
    simp only [Except.bind]
    rw [Machine.settings, Machine.settings, h.config hpath]

theorem ReadsSame.collatorOn (h : o.ReadsSame s t) (hpaths : t.pathRules = s.pathRules)
    (hconfigured : o.configured s = .ok o') : o'.collatorOn t = o'.collatorOn s := by
  have hrules : o'.rulesOn t = o'.rulesOn s := by
    unfold rulesOn
    cases hget : o'.get "rules" with
    | error e => rfl
    | ok v =>
      simp only [Except.bind]
      by_cases htruthy : v.isTruthy = true
      · rw [if_pos htruthy, if_pos htruthy]
      · rw [if_neg htruthy, if_neg htruthy, pathOn_congr hpaths]
        cases hpath : o'.pathOn "rules_file" s with
        | error e => rfl
        | ok path =>
          have hfile := h.rules hconfigured hget (Bool.eq_false_iff.mpr htruthy) hpath
          dsimp only
          rw [Machine.fileText, Machine.fileText, hfile]
  unfold OptionStore.collatorOn
  rw [hrules]

end Collation.OptionStore
