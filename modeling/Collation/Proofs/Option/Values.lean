import Mathlib.Data.List.Nodup
import Collation.Config.Values
import Collation.Proofs.Lookup

/-! Values by name. What is put last for a name is what is found for it, and no name comes twice in
what is put together from nothing. -/

namespace Collation.Config.Values

variable {vs more : Values} {name other t : Text} {v : Value}

/-- The text that is the value of a name, if it is one. -/
def text? (vs : Values) (name : Text) : Option Text :=
  match vs.get? name with
  | some (.text t) => some t
  | _ => none

theorem get?_of_text? (h : vs.text? name = some t) : vs.get? name = some (.text t) := by
  unfold text? at h
  split at h
  · rename_i t' hget
    obtain rfl : t' = t := Option.some.inj h
    exact hget
  · contradiction

/-- The value that comes last for a name. -/
def last? (vs : Values) (name : Text) : Option Value :=
  vs.reverse.lookup name

theorem get?_put (vs : Values) (name other : Text) (v : Value) :
    (vs.put name v).get? other = if other = name then some v else vs.get? other := by
  unfold put get?
  rw [any_eq_isSome_lookup]
  exact lookup_set vs name other v

theorem last?_cons (p : Text × Value) (more : Values) (name : Text) :
    last? (p :: more) name = (last? more name).or (if name = p.1 then some p.2 else none) := by
  obtain ⟨key, w⟩ := p
  unfold last?
  rw [List.reverse_cons, List.lookup_append]
  by_cases h : name = key
  · rw [if_pos h, h, List.lookup_cons_self]
  · rw [if_neg h, lookup_cons_of_ne h]
    rfl

theorem get?_putAll (vs more : Values) (name : Text) :
    (vs.putAll more).get? name = (more.last? name).or (vs.get? name) := by
  induction more generalizing vs with
  | nil => rfl
  | cons p more ih =>
    have hstep : vs.putAll (p :: more) = (vs.put p.1 p.2).putAll more := rfl
    rw [hstep, ih, get?_put, last?_cons, Option.or_assoc]
    split <;> rfl

/-! No name comes twice. -/

theorem names_put (vs : Values) (name : Text) (v : Value) :
    (vs.put name v).map Prod.fst =
      if (vs.lookup name).isSome then vs.map Prod.fst else vs.map Prod.fst ++ [name] := by
  unfold put
  rw [any_eq_isSome_lookup]
  split
  · rw [List.map_map]
    apply List.map_congr_left
    intro p _
    by_cases hp : p.1 = name
    · simp [hp]
    · simp [hp]
  · simp

theorem isSome_lookup_iff : (vs.lookup name).isSome = true ↔ name ∈ vs.map Prod.fst := by
  rw [← any_eq_isSome_lookup, List.any_eq_true, List.mem_map]
  simp

theorem nodup_names_put (h : (vs.map Prod.fst).Nodup) (name : Text) (v : Value) :
    ((vs.put name v).map Prod.fst).Nodup := by
  rw [names_put]
  split
  · exact h
  · next hnew =>
    have hnot : name ∉ vs.map Prod.fst := fun hmem => hnew (isSome_lookup_iff.mpr hmem)
    exact h.append (List.nodup_singleton name) (List.disjoint_singleton.mpr hnot)

theorem nodup_names_putAll (h : (vs.map Prod.fst).Nodup) (more : Values) :
    ((vs.putAll more).map Prod.fst).Nodup := by
  induction more generalizing vs with
  | nil => exact h
  | cons p more ih => exact ih (nodup_names_put h p.1 p.2)

theorem lookup_eq_some_iff_mem (h : (vs.map Prod.fst).Nodup) :
    vs.lookup name = some v ↔ (name, v) ∈ vs := by
  induction vs with
  | nil => simp
  | cons p vs ih =>
    obtain ⟨key, w⟩ := p
    obtain ⟨hkey, hrest⟩ := List.nodup_cons.mp h
    by_cases hname : name = key
    · subst hname
      have hnot : (name, v) ∉ vs := by
        intro hmem
        apply hkey
        exact List.mem_map.mpr ⟨(name, v), hmem, rfl⟩
      simp [hnot, eq_comm]
    · rw [lookup_cons_of_ne hname, ih hrest]
      simp [hname]

theorem last?_of_nodup (h : (vs.map Prod.fst).Nodup) (name : Text) :
    vs.last? name = vs.get? name := by
  have hreverse : (vs.reverse.map Prod.fst).Nodup := by
    rw [List.map_reverse]
    exact List.nodup_reverse.mpr h
  apply Option.ext
  intro v
  unfold last? get?
  rw [lookup_eq_some_iff_mem h, lookup_eq_some_iff_mem hreverse, List.mem_reverse]

/-- What was put together from nothing gives its last values when it is put in its turn. -/
theorem last?_putAll_nil (more : Values) (name : Text) :
    (putAll [] more).last? name = more.last? name := by
  have hnodup : ((putAll [] more).map Prod.fst).Nodup := nodup_names_putAll (by simp) more
  rw [last?_of_nodup hnodup, get?_putAll]
  exact Option.or_none

/-! Values that are put together first, and then put all at once. -/

theorem any_put (vs : Values) (name other : Text) (v : Value) :
    ((vs.put name v).any fun p => decide (p.1 = other)) =
      (decide (other = name) || vs.any fun p => decide (p.1 = other)) := by
  rw [any_eq_isSome_lookup, any_eq_isSome_lookup]
  change ((vs.put name v).get? other).isSome = _
  rw [get?_put]
  split
  · next h => simp [h]
  · next h => simp [h, get?]

theorem map_set_of_new (h : (vs.any fun p => decide (p.1 = name)) = false) (v : Value) :
    (vs.map fun p => if p.1 = name then (name, v) else p) = vs := by
  rw [List.any_eq_false] at h
  refine (List.map_congr_left fun p hp => if_neg fun hname => ?_).trans (List.map_id vs)
  exact h p hp (decide_eq_true hname)

theorem put_put (vs : Values) (name : Text) (v w : Value) :
    (vs.put name v).put name w = vs.put name w := by
  have hset : ((vs.put name v).any fun p => decide (p.1 = name)) = true := by simp [any_put]
  rw [put, if_pos hset]
  unfold put
  split
  · rw [List.map_map]
    apply List.map_congr_left
    intro p _
    by_cases hp : p.1 = name <;> simp [hp]
  · next hnew =>
    rw [List.map_append, map_set_of_new (Bool.eq_false_iff.mpr hnew)]
    simp

/-- A value that has its place keeps it, whatever is put in the meantime. -/
theorem put_comm (h : (vs.any fun p => decide (p.1 = name)) = true) (hne : other ≠ name)
    (v w : Value) : (vs.put other w).put name v = (vs.put name v).put other w := by
  have hset : ((vs.put other w).any fun p => decide (p.1 = name)) = true := by simp [any_put, h]
  have hother := any_put vs name other v
  rw [decide_eq_false hne, Bool.false_or] at hother
  rw [put, if_pos hset]
  conv_rhs => rw [put, hother]
  unfold put
  rw [if_pos h]
  split
  · rw [List.map_map, List.map_map]
    apply List.map_congr_left
    intro p _
    by_cases hp : p.1 = other
    · simp [hp, hne]
    · by_cases hname : p.1 = name <;> simp [hp, hname, Ne.symm hne]
  · rw [List.map_append]
    simp [hne]

/-- A value that has its place can be set before others are put or after. -/
theorem putAll_map_set (h : (vs.any fun p => decide (p.1 = name)) = true) (more : Values)
    (v : Value) :
    (vs.put name v).putAll (more.map fun p => if p.1 = name then (name, v) else p) =
      (vs.putAll more).put name v := by
  induction more generalizing vs with
  | nil => rfl
  | cons p more ih =>
    have hset : ((vs.put p.1 p.2).any fun q => decide (q.1 = name)) = true := by
      simp [any_put, h]
    have hstep : vs.putAll (p :: more) = (vs.put p.1 p.2).putAll more := rfl
    rw [hstep, ← ih hset, List.map_cons]
    by_cases hp : p.1 = name
    · rw [if_pos hp, hp, put_put]
      change ((vs.put name v).put name v).putAll _ = _
      rw [put_put]
    · rw [if_neg hp, put_comm h hp]
      rfl

theorem putAll_put (vs more : Values) (name : Text) (v : Value) :
    vs.putAll (more.put name v) = (vs.putAll more).put name v := by
  induction more generalizing vs with
  | nil => rfl
  | cons p more ih =>
    obtain ⟨key, w⟩ := p
    have hstep : ∀ us : Values, vs.putAll ((key, w) :: us) = (vs.put key w).putAll us :=
      fun _ => rfl
    rw [hstep]
    by_cases hkey : key = name
    · subst hkey
      have hset : ((vs.put key w).any fun p => decide (p.1 = key)) = true := by simp [any_put]
      have hput : put ((key, w) :: more) key v =
          (key, v) :: more.map fun p => if p.1 = key then (key, v) else p := by simp [put]
      rw [hput, ← putAll_map_set hset, put_put]
      rfl
    · have hput : put ((key, w) :: more) name v = (key, w) :: put more name v := by
        unfold put
        rw [List.any_cons, decide_eq_false hkey, Bool.false_or]
        split
        · simp [hkey]
        · rfl
      rw [hput, hstep, ih]

/-- Values can be put together before they are put. -/
theorem putAll_putAll (vs more others : Values) :
    vs.putAll (more.putAll others) = (vs.putAll more).putAll others := by
  induction others generalizing more with
  | nil => rfl
  | cons p others ih =>
    have hstep : ∀ us : Values, us.putAll (p :: others) = (us.put p.1 p.2).putAll others :=
      fun _ => rfl
    rw [hstep, hstep, ih, putAll_put]

theorem eraseDups_of_mem {names more : List Text} (h : name ∈ names) :
    (names ++ name :: more).eraseDups = (names ++ more).eraseDups := by
  rw [List.eraseDups_append, List.eraseDups_append, List.cons_removeAll]
  simp [h]

/-- Names that come twice are counted once, also where values are put together. -/
theorem eraseDups_names_putAll (names : List Text) (vs more : Values) :
    (names ++ (vs.putAll more).map Prod.fst).eraseDups =
      (names ++ (vs.map Prod.fst ++ more.map Prod.fst)).eraseDups := by
  induction more generalizing vs with
  | nil => simp [putAll]
  | cons p more ih =>
    have hstep : vs.putAll (p :: more) = (vs.put p.1 p.2).putAll more := rfl
    rw [hstep, ih, names_put]
    split
    · next hthere =>
      have hmem : p.1 ∈ names ++ vs.map Prod.fst :=
        List.mem_append_right _ (isSome_lookup_iff.mp hthere)
      rw [List.map_cons, ← List.append_assoc, ← List.append_assoc, eraseDups_of_mem hmem]
    · rw [List.append_assoc]
      rfl

end Collation.Config.Values
