import Collation.Unicode.Normalization

/-! A normalization form leaves no text empty that was not so before: every character is decomposed
into at least one, canonical order keeps them all, and composition keeps the first one or makes it
a part of another. -/

namespace Collation

namespace Unicode

namespace Packed

theorem splitOnAux_ne_nil (s separator : String) (start i j : String.Pos.Raw)
    (parts : List String) : s.splitOnAux separator start i j parts ≠ [] := by
  fun_induction String.splitOnAux s separator start i j parts with
  | case1 => simp
  | case2 _ _ _ _ _ _ _ _ _ ih => exact ih
  | case3 _ _ _ _ _ _ _ _ _ ih => exact ih
  | case4 _ _ _ _ _ _ ih => exact ih

theorem hexes_ne_nil (s : String) : hexes s ≠ [] := by
  have hparts : s.splitOn "+" ≠ [] := splitOnAux_ne_nil s "+" 0 0 0 []
  rwa [hexes, Ne, List.map_eq_nil_iff]

/-- A rule that rewrites anything has a target. -/
theorem rule_target_ne_nil {s : String} (h : (rule s).1 ≠ []) : (rule s).2 ≠ [] := by
  unfold rule at h ⊢
  split
  · exact hexes_ne_nil _
  · next hother =>
    split at h
    · next hsplit => exact absurd hsplit (hother _ _)
    · contradiction

/-- What a packed text rewrites a source to is the target of one of its rules. -/
theorem exists_rule {s : String} {source target : List Nat}
    (h : (rules s)[source]? = some target) :
    ∃ entry ∈ entries s, rule entry = (source, target) := by
  rw [rules, Std.HashMap.ofList_eq_insertMany_empty, Std.HashMap.getElem?_insertMany_list,
    List.findSomeRev?_eq_findSome?_reverse, Std.HashMap.getElem?_empty, Option.or_none] at h
  obtain ⟨r, hr, hfound⟩ := List.exists_of_findSome?_eq_some h
  obtain ⟨entry, hentry, rfl⟩ := List.mem_map.mp (List.mem_reverse.mp hr)
  change (if (rule entry).1 == source then some (rule entry).2 else none) = some target at hfound
  obtain ⟨hsource, htarget⟩ := Option.ite_none_right_eq_some.mp hfound
  exact ⟨entry, hentry, Prod.ext (beq_iff_eq.mp hsource) (Option.some.inj htarget)⟩

theorem target_ne_nil {s : String} {source target : List Nat} (hsource : source ≠ [])
    (h : (rules s)[source]? = some target) : target ≠ [] := by
  obtain ⟨entry, -, hentry⟩ := exists_rule h
  have htarget : (rule entry).1 ≠ [] → (rule entry).2 ≠ [] := rule_target_ne_nil
  rw [hentry] at htarget
  exact htarget hsource

end Packed

theorem decompose_ne_nil (compatible : Bool) (code : Nat) : decompose compatible code ≠ [] := by
  unfold decompose
  split
  · next codes hangul =>
    unfold Hangul.decompose? at hangul
    split at hangul
    · obtain rfl := Option.some.inj hangul
      simp
    · contradiction
  · split
    · next codes hcompatible =>
      split at hcompatible
      · exact Packed.target_ne_nil (List.cons_ne_nil code []) hcompatible
      · contradiction
    · cases hcanonical : canonicalDecomposition? code with
      | none => simp
      | some codes => exact Packed.target_ne_nil (List.cons_ne_nil code []) hcanonical

theorem insertMark_ne_nil (code : Nat) (codes : List Nat) : insertMark code codes ≠ [] := by
  unfold insertMark
  split
  · simp
  · split <;> simp

theorem canonicalOrder_eq_nil_iff {codes : List Nat} : canonicalOrder codes = [] ↔ codes = [] := by
  cases codes with
  | nil => rfl
  | cons code codes => simp [canonicalOrder, insertMark_ne_nil]

theorem composeAfter_ne_nil (starter : Nat) (marks codes : List Nat) :
    composeAfter starter marks codes ≠ [] := by
  fun_induction composeAfter starter marks codes with
  | case1 => simp
  | case2 _ _ _ _ _ _ _ ih => exact ih
  | case3 => simp
  | case4 _ _ _ _ _ _ _ ih => exact ih

theorem compose_eq_nil_iff {codes : List Nat} : compose codes = [] ↔ codes = [] := by
  cases codes with
  | nil => rfl
  | cons code codes =>
    unfold compose
    split <;> simp [composeAfter_ne_nil]

end Unicode

theorem Form.normalize_eq_nil_iff {form : Form} {text : Text} :
    form.normalize text = [] ↔ text = [] := by
  have hcodes : text.flatMap (fun c => Unicode.decompose form.isCompatible c.toNat) = [] ↔
      text = [] := by
    cases text <;> simp [Unicode.decompose_ne_nil]
  unfold Form.normalize
  rw [List.map_eq_nil_iff, ← hcodes]
  split
  · rw [Unicode.compose_eq_nil_iff, Unicode.canonicalOrder_eq_nil_iff]
  · exact Unicode.canonicalOrder_eq_nil_iff

theorem normalize_eq_nil_iff {form : Option Form} {text : Text} :
    normalize form text = [] ↔ text = [] := by
  cases form with
  | none => rfl
  | some form => exact Form.normalize_eq_nil_iff

end Collation
