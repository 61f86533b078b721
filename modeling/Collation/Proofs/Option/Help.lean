import Collation.Option.Help
import Collation.Proofs.Text.Parts

/-! The rows of a help text: where the descriptions stand, and which keys run into theirs. -/

namespace Collation.Help

variable {limit : Int} {options : List OptionSpec} {rs : List Row} {r : Row} {column : Nat}

/-- How a row can stand: the description behind the key, from the column on, or below it on a line
of its own. -/
inductive Row.Stands (column : Nat) (r : Row) : List Text → Prop where
  | beside {gap : Nat} (hgap : 0 < gap) (hcolumn : r.keys.length + gap = column) :
      Stands column r [r.keys ++ List.replicate gap ' ' ++ r.description]
  | below : Stands column r [r.keys, "    " ++ r.description]

theorem Row.stands_lines (h : r.keys.length ≠ column) : r.Stands column (r.lines column) := by
  unfold lines
  split
  · next hle =>
    have hlt : r.keys.length < column := Nat.lt_of_le_of_ne hle h
    exact .beside (Nat.sub_pos_of_lt hlt) (Nat.add_sub_of_le hle)
  · exact .below

/-- A key that is just as wide as the column has no gap behind it. -/
theorem Row.lines_of_length_eq (h : r.keys.length = column) :
    r.lines column = [r.keys ++ r.description] := by
  rw [lines, if_pos (Nat.le_of_eq h), Text.padRight, h, Nat.sub_self, List.replicate_zero,
    List.append_nil]

/-- No part of a row but its texts brings in another character than a blank. -/
theorem Row.not_mem_lines {c : Char} (hblank : c ≠ ' ') (hkeys : c ∉ r.keys)
    (hdescription : c ∉ r.description) (column : Nat) : ∀ line ∈ r.lines column, c ∉ line := by
  unfold lines
  split
  · simp [Text.padRight, hblank, hkeys, hdescription]
  · simp [hblank, hkeys, hdescription]

theorem not_mem_of_mem_rows (h : ∀ o ∈ options, '\n' ∉ o.key ∧ '\n' ∉ o.description)
    (hr : r ∈ rows options) : '\n' ∉ r.keys ∧ '\n' ∉ r.description := by
  rcases List.mem_append.mp hr with hr | hr
  · obtain ⟨o, ho, rfl⟩ := List.mem_map.mp hr
    exact h o ho
  · obtain rfl := List.mem_singleton.mp hr
    decide

/-! The column is two places wider than the widest key below the limit. -/

theorem add_two_le_column (h : column? limit rs = some column) (hr : r ∈ rs)
    (hlimit : (r.keys.length : Int) < limit) : r.keys.length + 2 ≤ column := by
  obtain ⟨widest, hwidest, rfl⟩ := Option.map_eq_some_iff.mp h
  obtain ⟨-, hle⟩ := List.max?_eq_some_iff.mp hwidest
  apply Nat.add_le_add_right
  apply hle
  rw [List.mem_filter]
  exact ⟨List.mem_map_of_mem hr, decide_eq_true hlimit⟩

theorem exists_widest (h : column? limit rs = some column) :
    ∃ r ∈ rs, r.keys.length + 2 = column ∧ (r.keys.length : Int) < limit := by
  obtain ⟨widest, hwidest, rfl⟩ := Option.map_eq_some_iff.mp h
  obtain ⟨hmem, -⟩ := List.max?_eq_some_iff.mp hwidest
  obtain ⟨hmem, hlimit⟩ := List.mem_filter.mp hmem
  obtain ⟨r, hr, rfl⟩ := List.mem_map.mp hmem
  exact ⟨r, hr, rfl, of_decide_eq_true hlimit⟩

/-- The row of the help text itself is below any limit above ten. -/
theorem exists_column (hlimit : 10 < limit) (options : List OptionSpec) :
    ∃ column, column? limit (rows options) = some column := by
  have hmem : 10 ∈ ((rows options).map fun r => r.keys.length).filter
      fun (n : Nat) => (n : Int) < limit := by
    rw [List.mem_filter]
    refine ⟨List.mem_map.mpr ⟨_, List.mem_append_right _ List.mem_cons_self, rfl⟩, ?_⟩
    exact decide_eq_true hlimit
  unfold column?
  cases hmax : (((rows options).map fun r => r.keys.length).filter
      fun (n : Nat) => (n : Int) < limit).max? with
  | none =>
    rw [List.max?_eq_none_iff.mp hmax] at hmem
    contradiction
  | some widest => exact ⟨widest + 2, rfl⟩

/-- Only a key that is too wide to count can be as wide as the column, and that by two places at
most. -/
theorem limit_of_length_eq (h : column? limit rs = some column) (hr : r ∈ rs)
    (hlength : r.keys.length = column) : limit ≤ column ∧ column ≤ limit + 1 := by
  obtain ⟨widest, -, hwidest, hbelow⟩ := exists_widest h
  refine ⟨Int.not_lt.mp fun hlt => ?_, by omega⟩
  have hcounted := add_two_le_column h hr (by omega)
  omega

/-- The text ends with the rows, of which a last empty part tells that each line has an end. -/
theorem text_of_column (h : column? limit (rows options) = some column)
    (script description : Text) :
    text limit script description options = .ok (description ++ '\n' :: usage script options ++
      '\n' :: '\n' :: Text.join ['\n'] ((rows options).flatMap (Row.lines column) ++ [[]])) := by
  have hrows : (rows options).flatMap (Row.lines column) ++ [[]] ≠ [] := by simp
  unfold text
  rw [h]
  change Except.ok (Text.join ['\n'] (description :: usage script options :: [] ::
    ((rows options).flatMap (Row.lines column) ++ [[]]))) = _
  rw [Text.join_cons_of_ne_nil (List.cons_ne_nil _ _),
    Text.join_cons_of_ne_nil (List.cons_ne_nil _ _), Text.join_cons_of_ne_nil hrows]
  simp

/-- Above a limit of ten there is always a help text. After the usage it shows the options in order,
and then itself: each description stands behind its key, with a gap and at the same column on all
such lines, or below it. The one exception is a key of just the width of the column, which runs into
its description. Such a key has the width of the limit or one place more, and another key is two
places shorter. -/
theorem text_shows_rows (hlimit : 10 < limit)
    (hlines : ∀ o ∈ options, '\n' ∉ o.key ∧ '\n' ∉ o.description) (script description : Text) :
    ∃ (column : Nat) (body : Text),
      text limit script description options = .ok (description ++ '\n' :: usage script options ++
        '\n' :: '\n' :: body) ∧
      Text.splitAt '\n' body = (rows options).flatMap (Row.lines column) ++ [[]] ∧
      ∀ r ∈ rows options,
        (r.keys.length ≠ column → r.Stands column (r.lines column)) ∧
        (r.keys.length = column → r.lines column = [r.keys ++ r.description] ∧
          limit ≤ column ∧ column ≤ limit + 1 ∧
          ∃ other ∈ rows options, other.keys.length + 2 = column) := by
  obtain ⟨column, hcolumn⟩ := exists_column hlimit options
  refine ⟨column, _, text_of_column hcolumn script description, ?_, fun r hr => ⟨?_, ?_⟩⟩
  · apply Text.splitAt_join (by simp)
    intro line hline
    rcases List.mem_append.mp hline with hline | hline
    · obtain ⟨r, hr, hline⟩ := List.mem_flatMap.mp hline
      obtain ⟨hkeys, hdescription⟩ := not_mem_of_mem_rows hlines hr
      exact Row.not_mem_lines (by decide) hkeys hdescription column line hline
    · obtain rfl := List.mem_singleton.mp hline
      exact List.not_mem_nil
  · exact Row.stands_lines
  · intro hlength
    obtain ⟨hlow, hhigh⟩ := limit_of_length_eq hcolumn hr hlength
    obtain ⟨other, hother, hwidest, -⟩ := exists_widest hcolumn
    exact ⟨Row.lines_of_length_eq hlength, hlow, hhigh, other, hother, hwidest⟩

/-- Options whose keys are 30 and 32 characters wide. -/
def wideOptions : List OptionSpec :=
  [⟨"--" ++ List.replicate 28 'a', "First.", .text⟩,
    ⟨"--" ++ List.replicate 30 'b', "Second.", .text⟩]

theorem text_shows_rows_wide :
    10 < defaultLimit ∧ (∀ o ∈ wideOptions, '\n' ∉ o.key ∧ '\n' ∉ o.description) ∧
    ∃ (column : Nat) (body : Text),
      text defaultLimit "prog" "About." wideOptions = .ok ("About.".toList ++ '\n' ::
        usage "prog" wideOptions ++ '\n' :: '\n' :: body) ∧
      Text.splitAt '\n' body = (rows wideOptions).flatMap (Row.lines column) ++ [[]] := by
  have hlimit : 10 < defaultLimit := by decide
  have hlines : ∀ o ∈ wideOptions, '\n' ∉ o.key ∧ '\n' ∉ o.description := by decide
  obtain ⟨column, body, htext, hbody, -⟩ := text_shows_rows hlimit hlines "prog" "About."
  exact ⟨hlimit, hlines, column, body, htext, hbody⟩

/-- The wider of the keys counts for no column, and is not too wide for the one of the other key, so
that nothing parts it from its description. -/
theorem text_runs_together :
    let key : Text := "--" ++ List.replicate 30 'b'
    ∃ t, text defaultLimit "prog" "About." wideOptions = .ok t ∧
      key ++ "Second." ∈ Text.splitAt '\n' t ∧
      ∀ line ∈ Text.splitAt '\n' t, line ≠ key ∧ ¬ key ++ [' '] <+: line := by
  refine ⟨_, rfl, ?_, ?_⟩
  · decide +kernel
  · decide +kernel

end Collation.Help
