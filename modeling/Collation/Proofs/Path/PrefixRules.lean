import Mathlib.Data.List.Induction
import Collation.Proofs.Lookup
import Collation.Proofs.Path.Normal
import Collation.Proofs.Sort

/-! Signs that stand for directories at the start of paths. Of the signs that a path starts with the
longest one counts, whatever the order in which they were given. The directory stands in front of what
the path goes on with, unless that begins with a slash. -/

namespace Collation.Path

variable {rules : PrefixRules} {given other : List PrefixRule} {rule g g' : PrefixRule}
  {path : Text}

namespace PrefixRule

/-- The rule as it is kept, with a normal path. -/
def kept (g : PrefixRule) : PrefixRule :=
  { g with base := normal g.base }

/-- The path starts with the sign of the rule and with no longer one, and no rule with the same sign
was given before. -/
structure Counts (given : List PrefixRule) (path : Text) (g : PrefixRule) : Prop where
  starts : g.sign <+: path
  longest : ∀ h ∈ given, h.sign <+: path → h.sign.length ≤ g.sign.length
  first : given.find? (·.sign = g.sign) = some g

theorem Counts.mem (h : g.Counts given path) : g ∈ given :=
  List.mem_of_find?_eq_some h.first

theorem Counts.unique (h : g.Counts given path) (h' : g'.Counts given path) : g = g' := by
  have hle := h.longest g' h'.mem h'.starts
  have hge := h'.longest g h.mem h.starts
  have hlength : g.sign.length = g'.sign.length := by omega
  have hsign : g.sign = g'.sign :=
    (List.prefix_of_prefix_length_le h.starts h'.starts hge).eq_of_length hlength
  have hfirst := h'.first
  rw [← hsign, h.first] at hfirst
  exact Option.some.inj hfirst

/-- If no sign is given twice, the order of the rules does not matter. -/
theorem Counts.of_perm (h : g.Counts given path) (hperm : other.Perm given)
    (hnodup : (given.map (·.sign)).Nodup) : g.Counts other path := by
  have hmem : g ∈ other := hperm.mem_iff.mpr h.mem
  have hother : (other.map (·.sign)).Nodup := (hperm.map (·.sign)).nodup_iff.mpr hnodup
  exact ⟨h.starts, fun k hk => h.longest k (hperm.mem_iff.mp hk), find?_of_nodup_map hother hmem⟩

end PrefixRule

namespace PrefixRules

open PrefixRule

/-- Rules that are added one after the other. -/
def ofGiven (given : List PrefixRule) : PrefixRules :=
  given.foldl (fun rules g => rules.add g.sign g.base) []

/-- Longer signs come first, and rules with one sign in the order in which they were given. -/
structure Keeps (given : List PrefixRule) (rules : PrefixRules) : Prop where
  longestFirst : rules.Pairwise fun a b => b.sign.length ≤ a.sign.length
  ofSign : ∀ sign, rules.filter (·.sign = sign) = (given.map kept).filter (·.sign = sign)

theorem Keeps.mem_iff (h : Keeps given rules) : rule ∈ rules ↔ rule ∈ given.map kept := by
  have hof := congrArg (rule ∈ ·) (h.ofSign rule.sign)
  simpa using hof

/-- The sort by length puts a new rule behind those with the same sign. -/
theorem keeps_add (h : Keeps given rules) (g : PrefixRule) :
    Keeps (given ++ [g]) (rules.add g.sign g.base) := by
  have htrans : ∀ a b c : PrefixRule, decide (b.sign.length ≤ a.sign.length) = true →
      decide (c.sign.length ≤ b.sign.length) = true →
      decide (c.sign.length ≤ a.sign.length) = true := by
    intro a b c hab hbc
    rw [decide_eq_true_eq] at hab hbc ⊢
    omega
  have htotal : ∀ a b : PrefixRule, (decide (b.sign.length ≤ a.sign.length) ||
      decide (a.sign.length ≤ b.sign.length)) = true := by
    intro a b
    rw [Bool.or_eq_true, decide_eq_true_eq, decide_eq_true_eq]
    omega
  constructor
  · exact (List.pairwise_mergeSort htrans htotal (rules ++ [g.kept])).imp of_decide_eq_true
  · intro sign
    have hequal : ((rules ++ [g.kept]).filter (·.sign = sign)).Pairwise
        fun a b => decide (b.sign.length ≤ a.sign.length) = true := by
      refine List.pairwise_of_forall_mem_list fun a ha b hb => ?_
      have ha := of_decide_eq_true (List.mem_filter.mp ha).2
      have hb := of_decide_eq_true (List.mem_filter.mp hb).2
      rw [ha, hb]
      exact decide_eq_true le_rfl
    calc (rules.add g.sign g.base).filter (·.sign = sign)
        = (rules ++ [g.kept]).filter (·.sign = sign) := filter_mergeSort htrans htotal hequal
      _ = ((given ++ [g]).map kept).filter (·.sign = sign) := by
        rw [List.filter_append, h.ofSign, List.map_append, List.filter_append]
        rfl

theorem keeps_ofGiven (given : List PrefixRule) : Keeps given (ofGiven given) := by
  induction given using List.reverseRecOn with
  | nil => exact ⟨List.Pairwise.nil, fun _ => rfl⟩
  | append_singleton given g ih =>
    have hstep : ofGiven (given ++ [g]) = (ofGiven given).add g.sign g.base := by
      rw [ofGiven, List.foldl_append]
      rfl
    rw [hstep]
    exact keeps_add ih g

/-- The rule that is found for a path is the one that counts. -/
theorem Keeps.counts (h : Keeps given rules)
    (hfind : rules.find? (·.sign.isPrefixOf path) = some rule) :
    ∃ g : PrefixRule, g.Counts given path ∧ g.kept = rule := by
  have hstarts : rule.sign <+: path := List.isPrefixOf_iff_prefix.mp (List.find?_some hfind :)
  -- No rule with the same sign stands before it, neither among the rules nor among the given ones.
  have hfirst : (given.map kept).find? (·.sign = rule.sign) = some rule := by
    rw [← List.head?_filter, ← h.ofSign, List.head?_filter]
    refine find?_of_imp hfind (decide_eq_true rfl) fun a _ ha => ?_
    rw [of_decide_eq_true ha]
    exact List.isPrefixOf_iff_prefix.mpr hstarts
  rw [List.find?_map] at hfirst
  obtain ⟨g, hg, rfl⟩ := Option.map_eq_some_iff.mp hfirst
  refine ⟨g, ⟨hstarts, fun k hk hprefix => ?_, hg⟩, rfl⟩
  have hmem : k.kept ∈ rules := h.mem_iff.mpr (List.mem_map_of_mem hk)
  have hlong := rel_of_find? h.longestFirst hfind hmem (List.isPrefixOf_iff_prefix.mpr hprefix)
  rcases hlong with heq | hle
  · exact (congrArg (fun r : PrefixRule => r.sign.length) heq).le
  · exact hle

/-- A path that starts with no sign stays as it is. -/
theorem convert_of_no_sign (h : ∀ rule ∈ rules, rule.sign.isPrefixOf path = false) :
    rules.convert path = path := by
  have hfind : rules.find? (fun rule => rule.sign.isPrefixOf path) = none :=
    List.find?_eq_none.mpr fun rule hrule => Bool.eq_false_iff.mp (h rule hrule)
  unfold convert
  rw [hfind]

theorem Keeps.convert_cases (h : Keeps given rules) (path : Text) :
    (∃ g : PrefixRule, g.Counts given path ∧
      rules.convert path = join (normal g.base) (path.drop g.sign.length)) ∨
    (∀ g ∈ given, ¬ g.sign <+: path) ∧ rules.convert path = path := by
  cases hfind : rules.find? (·.sign.isPrefixOf path) with
  | some rule =>
    obtain ⟨g, hg, rfl⟩ := h.counts hfind
    refine Or.inl ⟨g, hg, ?_⟩
    unfold convert
    rw [hfind]
    rfl
  | none =>
    have hnone := List.find?_eq_none.mp hfind
    refine Or.inr ⟨fun g hg hprefix => ?_, ?_⟩
    · apply hnone g.kept (h.mem_iff.mpr (List.mem_map_of_mem hg))
      exact List.isPrefixOf_iff_prefix.mpr hprefix
    · exact convert_of_no_sign fun rule hrule => Bool.eq_false_iff.mpr (hnone rule hrule)

theorem convert_of_counts (h : g.Counts given path) :
    (ofGiven given).convert path = join (normal g.base) (path.drop g.sign.length) := by
  obtain ⟨g', hg', hconvert⟩ | ⟨hnone, -⟩ := (keeps_ofGiven given).convert_cases path
  · obtain rfl : g = g' := h.unique hg'
    exact hconvert
  · exact absurd h.starts (hnone g h.mem)

theorem convert_of_none (h : ∀ g ∈ given, ¬ g.sign <+: path) :
    (ofGiven given).convert path = path := by
  obtain ⟨g, hg, -⟩ | ⟨-, hconvert⟩ := (keeps_ofGiven given).convert_cases path
  · exact absurd hg.starts (h g hg.mem)
  · exact hconvert

/-- A path is converted by the rule with the longest sign that it starts with, and of the rules with
that sign by the one that was given first. A path that starts with no sign stays as it is. So rules
with different signs can be given in any order. -/
theorem convert_by_longest_sign (given : List PrefixRule) :
    (∀ path,
      (∃ g : PrefixRule, g.Counts given path ∧
        (ofGiven given).convert path = join (normal g.base) (path.drop g.sign.length)) ∨
      (∀ g ∈ given, ¬ g.sign <+: path) ∧ (ofGiven given).convert path = path) ∧
    ((given.map (·.sign)).Nodup → ∀ other : List PrefixRule, other.Perm given → ∀ path,
      (ofGiven other).convert path = (ofGiven given).convert path) := by
  refine ⟨(keeps_ofGiven given).convert_cases, fun hnodup other hperm path => ?_⟩
  obtain ⟨g, hg, hconvert⟩ | ⟨hnone, hsame⟩ := (keeps_ofGiven given).convert_cases path
  · rw [hconvert, convert_of_counts (hg.of_perm hperm hnodup)]
  · rw [hsame, convert_of_none fun g hg => hnone g (hperm.mem_iff.mp hg)]

/-- Two signs of which one is the start of the other. -/
def homeRules : List PrefixRule :=
  [⟨"~", "/short"⟩, ⟨"~/", "/user//data"⟩]

theorem convert_by_longest_sign_swapped :
    (homeRules.map (·.sign)).Nodup ∧ homeRules.reverse.Perm homeRules ∧
    (ofGiven homeRules.reverse).convert "~/x" = (ofGiven homeRules).convert "~/x" := by
  have hnodup : (homeRules.map (·.sign)).Nodup := by decide
  have hperm := homeRules.reverse_perm
  obtain ⟨-, horder⟩ := convert_by_longest_sign homeRules
  exact ⟨hnodup, hperm, horder hnodup _ hperm "~/x"⟩

/-- A converted path ends with what the path goes on with after its sign. The directory of the sign
stands in front of that, with a slash between unless it is the root. If the path goes on with a slash,
nothing stands in front, so that the converted path begins with the directory only by chance. -/
theorem convert_ends_with_rest (h : ∃ g ∈ given, g.sign <+: path) :
    ∃ g : PrefixRule, g.Counts given path ∧
      let directory := normal g.base
      let rest := path.drop g.sign.length
      let converted := (ofGiven given).convert path
      rest <:+ converted ∧
      (isAbsolute rest = false → converted = directory ++ gap directory ++ rest) ∧
      (isAbsolute rest = true → converted = rest) ∧
      (directory <+: converted ↔ isAbsolute rest = false ∨ directory <+: rest) := by
  obtain ⟨g, hg, hconvert⟩ | ⟨hnone, -⟩ := (keeps_ofGiven given).convert_cases path
  · refine ⟨g, hg, ?_⟩
    extract_lets directory rest converted
    cases habsolute : isAbsolute rest with
    | false =>
      have hjoin : converted = directory ++ gap directory ++ rest :=
        hconvert.trans (join_normal_of_relative habsolute g.base)
      have hbegins : directory <+: converted := by
        rw [hjoin, List.append_assoc]
        exact List.prefix_append _ _
      rw [hjoin] at hbegins ⊢
      exact ⟨List.suffix_append _ _, fun _ => rfl, nofun, fun _ => Or.inl rfl, fun _ => hbegins⟩
    | true =>
      have hjoin : converted = rest := hconvert.trans (join_of_absolute habsolute _)
      rw [hjoin]
      exact ⟨List.suffix_refl rest, nofun, fun _ => rfl, Or.inr, fun h => h.resolve_left nofun⟩
  · obtain ⟨g, hg, hstarts⟩ := h
    exact absurd hstarts (hnone g hg)

theorem convert_ends_with_rest_below :
    (∃ g ∈ homeRules, g.sign <+: "~/logs/x".toList) ∧
    "logs/x".toList <:+ (ofGiven homeRules).convert "~/logs/x" ∧
    (ofGiven homeRules).convert "~/logs/x" = "/user/data/logs/x".toList := by
  have hstarts : ∃ g ∈ homeRules, g.sign <+: "~/logs/x".toList :=
    ⟨⟨"~", "/short"⟩, List.mem_cons_self, by decide⟩
  have hcounts : PrefixRule.Counts homeRules "~/logs/x" ⟨"~/", "/user//data"⟩ :=
    ⟨by decide, by decide, by decide⟩
  obtain ⟨g, hg, hends, hrelative, -⟩ := convert_ends_with_rest hstarts
  obtain rfl := hg.unique hcounts
  refine ⟨hstarts, hends, (hrelative (by decide)).trans ?_⟩
  decide

/-- A sign without a slash at its end, before a slash: nothing is left of the directory. -/
theorem convert_leaves_directory :
    let given : List PrefixRule := [⟨"~", "/data"⟩]
    PrefixRule.Counts given "~/x" ⟨"~", "/data"⟩ ∧ normal "/data" = "/data".toList ∧
    (ofGiven given).convert "~/x" = "/x".toList ∧ ¬ "/data".toList <+: "/x".toList := by
  intro given
  have hcounts : PrefixRule.Counts given "~/x" ⟨"~", "/data"⟩ := ⟨by decide, by decide, by decide⟩
  exact ⟨hcounts, by decide, (convert_of_counts hcounts).trans (by decide), by decide⟩

end PrefixRules

end Collation.Path
