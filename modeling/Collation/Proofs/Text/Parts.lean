import Collation.Text

/-! Texts that are joined from parts, and cut into parts. -/

namespace Collation.Text

variable {c : Char} {t : Text} {ts : List Text}

theorem splitAt_cons_self (c : Char) (t : Text) : splitAt c (c :: t) = [] :: splitAt c t := by
  rw [splitAt, if_pos rfl]

theorem splitAt_ne_nil (c : Char) (t : Text) : splitAt c t ≠ [] := by
  induction t with
  | nil => simp [splitAt]
  | cons d t ih =>
    rw [splitAt]
    split
    · simp
    · split <;> simp

theorem splitAt_append (c : Char) (a b : Text) :
    splitAt c (a ++ c :: b) = splitAt c a ++ splitAt c b := by
  induction a with
  | nil =>
    rw [List.nil_append, splitAt_cons_self]
    rfl
  | cons d a ih =>
    rw [List.cons_append, splitAt, splitAt, ih]
    split
    · rfl
    · obtain ⟨part, more, hparts⟩ := List.exists_cons_of_ne_nil (splitAt_ne_nil c a)
      rw [hparts]
      rfl

theorem splitAt_of_not_mem (h : c ∉ t) : splitAt c t = [t] := by
  induction t with
  | nil => rfl
  | cons d t ih =>
    obtain ⟨hd, ht⟩ := not_or.mp (mt List.mem_cons.mpr h)
    rw [splitAt, if_neg (Ne.symm hd), ih ht]

theorem not_mem_of_mem_splitAt {part : Text} (h : part ∈ splitAt c t) : c ∉ part := by
  induction t generalizing part with
  | nil =>
    obtain rfl := List.mem_singleton.mp h
    exact List.not_mem_nil
  | cons d t ih =>
    rw [splitAt] at h
    split at h
    · rcases List.mem_cons.mp h with rfl | h
      · exact List.not_mem_nil
      · exact ih h
    · next hd =>
      obtain ⟨first, more, hparts⟩ := List.exists_cons_of_ne_nil (splitAt_ne_nil c t)
      rw [hparts] at h ih
      rcases List.mem_cons.mp h with rfl | h
      · intro hc
        rcases List.mem_cons.mp hc with rfl | hc
        · exact hd rfl
        · exact ih List.mem_cons_self hc
      · exact ih (List.mem_cons_of_mem _ h)

theorem join_cons (separator text : Text) (ts : List Text) :
    Text.join separator (text :: ts) = text ++ ts.flatMap (separator ++ ·) := by
  induction ts generalizing text with
  | nil => simp [Text.join]
  | cons t ts ih =>
    have hjoin : Text.join separator (text :: t :: ts) =
        text ++ (separator ++ Text.join separator (t :: ts)) := rfl
    rw [hjoin, ih, List.flatMap_cons]
    simp

theorem join_cons_of_ne_nil (hne : ts ≠ []) (c : Char) (t : Text) :
    join [c] (t :: ts) = t ++ c :: join [c] ts := by
  obtain ⟨u, us, rfl⟩ := List.exists_cons_of_ne_nil hne
  rfl

theorem mem_join {d : Char} (h : d ∈ join [c] ts) : d = c ∨ ∃ t ∈ ts, d ∈ t := by
  cases ts with
  | nil => exact absurd h List.not_mem_nil
  | cons t ts =>
    rw [join_cons] at h
    rcases List.mem_append.mp h with ht | hrest
    · exact Or.inr ⟨t, List.mem_cons_self, ht⟩
    · obtain ⟨u, hu, hd⟩ := List.mem_flatMap.mp hrest
      rcases List.mem_cons.mp hd with rfl | hd
      · exact Or.inl rfl
      · exact Or.inr ⟨u, List.mem_cons_of_mem t hu, hd⟩

/-- What is joined starts like the first part. -/
theorem head?_join_cons (ht : t ≠ []) (c : Char) (ts : List Text) :
    (join [c] (t :: ts)).head? = t.head? := by
  obtain ⟨d, u, rfl⟩ := List.exists_cons_of_ne_nil ht
  rw [join_cons]
  rfl

/-- Parts that do not hold what stands between them are found again. -/
theorem splitAt_join (hne : ts ≠ []) (h : ∀ t ∈ ts, c ∉ t) : splitAt c (join [c] ts) = ts := by
  induction ts with
  | nil => contradiction
  | cons t ts ih =>
    obtain ⟨ht, hts⟩ := List.forall_mem_cons.mp h
    cases ts with
    | nil => simpa [join] using splitAt_of_not_mem ht
    | cons u us =>
      have hrest := List.cons_ne_nil u us
      rw [join_cons_of_ne_nil hrest, splitAt_append, splitAt_of_not_mem ht, ih hrest hts]
      rfl

/-- What is joined ends like the last part. -/
theorem getLast?_join_concat (ht : t ≠ []) (c : Char) (ts : List Text) :
    (join [c] (ts ++ [t])).getLast? = t.getLast? := by
  induction ts with
  | nil => simp [join]
  | cons u us ih =>
    have hrest : join [c] (us ++ [t]) ≠ [] := by
      intro hnil
      rw [hnil] at ih
      exact ht (List.getLast?_eq_none_iff.mp ih.symm)
    rw [List.cons_append, join_cons_of_ne_nil (by simp), List.getLast?_append,
      List.getLast?_cons_of_ne_nil hrest, ih, List.getLast?_eq_some_getLast ht]
    rfl

end Collation.Text
