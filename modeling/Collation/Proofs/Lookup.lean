import Mathlib.Data.List.Nodup

/-! Lists in which what is found first counts, and among them lists of keys with values. -/

namespace Collation

section Find

variable {α β : Type} {r : α → α → Prop} {p q : α → Bool} {x y : α} {xs : List α}

/-- The first member with a property comes before all others that have it. -/
theorem rel_of_find? (hxs : xs.Pairwise r) (h : xs.find? p = some x) (hy : y ∈ xs)
    (hpy : p y = true) : y = x ∨ r x y := by
  obtain ⟨-, before, after, rfl, hbefore⟩ := List.find?_eq_some_iff_append.mp h
  obtain ⟨-, hafter, -⟩ := List.pairwise_append.mp hxs
  rcases List.mem_append.mp hy with hy | hy
  · have hnot := hbefore y hy
    rw [hpy] at hnot
    contradiction
  · rcases List.mem_cons.mp hy with rfl | hy
    · exact Or.inl rfl
    · exact Or.inr (List.rel_of_pairwise_cons hafter hy)

/-- A narrower property has the same first member if that member has it. -/
theorem find?_of_imp (h : xs.find? p = some x) (hx : q x = true)
    (himp : ∀ y ∈ xs, q y = true → p y = true) : xs.find? q = some x := by
  obtain ⟨-, before, after, rfl, hbefore⟩ := List.find?_eq_some_iff_append.mp h
  refine List.find?_eq_some_iff_append.mpr ⟨hx, before, after, rfl, fun y hy => ?_⟩
  have hnot := hbefore y hy
  cases hqy : q y with
  | false => rfl
  | true =>
    rw [himp y (List.mem_append_left _ hy) hqy] at hnot
    contradiction

/-- Where no key comes twice, a member is found by its key. -/
theorem find?_of_nodup_map [DecidableEq β] {f : α → β} (h : (xs.map f).Nodup) (hx : x ∈ xs) :
    xs.find? (f · = f x) = some x := by
  cases hfind : xs.find? (f · = f x) with
  | none =>
    have hnone := List.find?_eq_none.mp hfind x hx
    simp at hnone
  | some y =>
    have heq : f y = f x := by simpa using List.find?_some hfind
    rw [List.inj_on_of_nodup_map h (List.mem_of_find?_eq_some hfind) hx heq]

/-- Without repetitions, a list has one member if all its members are that one. -/
theorem eq_singleton_iff (h : xs.Nodup) : xs = [x] ↔ x ∈ xs ∧ ∀ y ∈ xs, y = x := by
  constructor
  · rintro rfl
    exact ⟨List.mem_cons_self, fun y hy => List.mem_singleton.mp hy⟩
  · rintro ⟨hx, honly⟩
    refine List.perm_singleton.mp ((List.perm_ext_iff_of_nodup h (List.nodup_singleton x)).mpr ?_)
    intro y
    rw [List.mem_singleton]
    exact ⟨honly y, fun hy => hy ▸ hx⟩

theorem filter_eq_singleton_iff (h : xs.Nodup) :
    xs.filter p = [x] ↔ x ∈ xs ∧ p x = true ∧ ∀ y ∈ xs, p y = true → y = x := by
  rw [eq_singleton_iff (h.filter p), List.mem_filter, and_assoc]
  simp only [List.mem_filter, and_imp]

end Find

section Keys

variable {α β : Type} [BEq α] [LawfulBEq α] [DecidableEq α] {key name : α} {v : β}

omit [DecidableEq α] in
theorem lookup_cons_of_ne (h : name ≠ key) (w : β) (vs : List (α × β)) :
    ((key, w) :: vs).lookup name = vs.lookup name := by
  rw [List.lookup_cons, beq_false_of_ne h]

theorem lookup_eq_find? (vs : List (α × β)) (name : α) :
    vs.lookup name = (vs.find? fun p => decide (p.1 = name)).map Prod.snd := by
  induction vs with
  | nil => rfl
  | cons p vs ih =>
    obtain ⟨key, w⟩ := p
    rw [List.find?_cons]
    by_cases hkey : name = key
    · subst hkey
      simp
    · rw [lookup_cons_of_ne hkey, decide_eq_false (Ne.symm hkey), ih]

theorem any_eq_isSome_lookup (vs : List (α × β)) (name : α) :
    (vs.any fun p => decide (p.1 = name)) = (vs.lookup name).isSome := by
  rw [lookup_eq_find?, Option.isSome_map, Bool.eq_iff_iff, List.any_eq_true, List.find?_isSome]

/-- A value that replaces those of a key is found wherever one of them was found. -/
theorem lookup_map_replace (vs : List (α × β)) (name other : α) (v : β) :
    (vs.map fun p => if p.1 = name then (name, v) else p).lookup other =
      if other = name then (vs.lookup name).map fun _ => v else vs.lookup other := by
  induction vs with
  | nil => split <;> rfl
  | cons p vs ih =>
    obtain ⟨key, w⟩ := p
    rw [List.map_cons]
    by_cases hkey : key = name
    · subst hkey
      by_cases hother : other = key
      · subst hother
        simp
      · rw [if_pos rfl, if_neg hother, lookup_cons_of_ne hother, lookup_cons_of_ne hother, ih,
          if_neg hother]
    · rw [if_neg hkey]
      by_cases hother : other = key
      · subst hother
        simp [hkey]
      · rw [lookup_cons_of_ne hother, lookup_cons_of_ne hother, lookup_cons_of_ne (Ne.symm hkey),
          ih]

/-- The value of a key is set where it stands, or else at the end. -/
theorem lookup_set (vs : List (α × β)) (name other : α) (v : β) :
    (if (vs.lookup name).isSome then vs.map fun p => if p.1 = name then (name, v) else p
      else vs ++ [(name, v)]).lookup other = if other = name then some v else vs.lookup other := by
  split
  · next hthere =>
    rw [lookup_map_replace]
    obtain ⟨w, hw⟩ := Option.isSome_iff_exists.mp hthere
    rw [hw]
    rfl
  · next hnew =>
    have hnone : vs.lookup name = none := Option.not_isSome_iff_eq_none.mp hnew
    rw [List.lookup_append]
    by_cases hother : other = name
    · subst hother
      simp [hnone]
    · rw [if_neg hother, lookup_cons_of_ne hother]
      exact Option.or_none

theorem lookup_of_filter {vs : List (α × β)}
    (h : (vs.filter fun p => decide (p.1 = name)) = [(name, v)]) : vs.lookup name = some v := by
  rw [lookup_eq_find?, ← List.head?_filter, h]
  rfl

end Keys

end Collation
