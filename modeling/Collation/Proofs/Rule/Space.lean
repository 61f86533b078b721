import Collation.Proofs.Rule.Place
import Collation.Proofs.Rule.Position

/-! White space outside quotes. It may stand between any two pieces of a rule text, inside an operand
too, and moves only the positions after it. -/

namespace Collation.Rule

/-- Where a place goes when a character is put in at `i`. -/
def pushed (i k : Nat) : Nat :=
  if k < i then k else k + 1

variable {form : Option Form} {before rest text : Text} {c : Char} {n m : Nat} {pending : Pending}
  {ts : List Token} {cause : RuleError.Cause}

theorem pushed_of_lt (h : n < m) : pushed m n = n :=
  if_pos h

theorem pushed_of_le (h : m ≤ n) : pushed m n = n + 1 :=
  if_neg (Nat.not_lt.mpr h)

theorem translates_pushed (m : Nat) : Translates (pushed m) m := by
  intro k
  rw [pushed_of_le (Nat.le_refl m), pushed_of_le (Nat.le_add_right m k), Nat.add_right_comm]

theorem token_move_pushed {token : Token} (h : token.position < m) :
    token.move (pushed m) = token := by
  cases token with
  | operator r n => exact congrArg (Token.operator r) (pushed_of_lt h)
  | operand text n => exact congrArg (Token.operand text) (pushed_of_lt h)

theorem map_move_pushed (hts : ∀ token ∈ ts, token.position < m) :
    ts.map (Token.move (pushed m)) = ts :=
  (List.map_congr_left fun token htoken => token_move_pushed (hts token htoken)).trans
    (List.map_id ts)

theorem pending_move_pushed (h : pending.Before m) : pending.move (pushed m) = pending := by
  cases pending with
  | none => rfl
  | some p => exact congrArg (fun k => some (k, p.2)) (pushed_of_lt (h p.1 p.2 rfl))

theorem ne_quote_of_isSpace (hc : isSpace c = true) : c ≠ quote := by
  rintro rfl
  contradiction

theorem scan_insert_space_of_passes (hc : isSpace c = true) (h : Passes rest before) :
    scan (before ++ c :: rest) = (scan (before ++ rest)).move (pushed before.length) := by
  obtain ⟨ts, held, hts, hheld, hscan⟩ := scanFrom_of_passes h (Nat.zero_add _) (before_none 0)
  have hquote : (c :: rest).head? = some quote → rest.head? = some quote :=
    fun hquote => absurd (Option.some.inj hquote) (ne_quote_of_isSpace hc)
  have hrest := scanFrom_move (translates_pushed before.length) held rest
  rw [pushed_of_le (Nat.le_refl _), pending_move_pushed hheld] at hrest
  rw [scan, scan, hscan (c :: rest) hquote, hscan rest id, scanFrom_space hc, hrest,
    Scan.move_prepend, map_move_pushed hts]

/-! White space at the end, where a quote may be open. -/

theorem quotedRun?_append (hc : c ≠ quote) (h : quotedRun? text = none) :
    quotedRun? (text ++ [c]) = none := by
  fun_induction quotedRun? text with
  | case1 =>
    rw [List.nil_append, quotedRun?]
    · rfl
    · exact fun _ h _ => hc h
    · exact hc
  | case2 after ih =>
    rw [List.cons_append, List.cons_append, quotedRun?, ih (Option.map_eq_none_iff.mp h)]
    rfl
  | case3 after hsingle => contradiction
  | case4 d after _ hd ih =>
    rw [List.cons_append, quotedRun?, ih (Option.map_eq_none_iff.mp h)]
    · rfl
    · exact fun _ h _ => hd h
    · exact hd

theorem quotedLiteral?_of_head? (h : text.head? ≠ some quote) :
    quotedLiteral? text = quotedRun? text := by
  rw [quotedLiteral?]
  rintro after rfl
  exact h rfl

theorem quotedLiteral?_append (hc : c ≠ quote) (h : quotedLiteral? text = none) :
    quotedLiteral? (text ++ [c]) = none := by
  have hfirst : text.head? ≠ some quote := by
    intro hquote
    obtain ⟨after, rfl⟩ := List.head?_eq_some_iff.mp hquote
    contradiction
  have hinserted : (text ++ [c]).head? ≠ some quote := by
    cases text with
    | nil => exact fun hquote => hc (Option.some.inj hquote)
    | cons d text => exact hfirst
  rw [quotedLiteral?_of_head? hfirst] at h
  rw [quotedLiteral?_of_head? hinserted, quotedRun?_append hc h]

theorem Stuck.append (h : Stuck cause text) (hc : c ≠ quote) : Stuck cause (text ++ [c]) := by
  cases h with
  | unclosed h => exact .unclosed (quotedLiteral?_append hc h)
  | reserved hquote hsymbol hspace hreserved => exact .reserved hquote hsymbol hspace hreserved

theorem scan_append_space (hc : isSpace c = true) (text : Text) :
    scan (text ++ [c]) = (scan text).move (pushed text.length) := by
  obtain ⟨before, rest, rfl, hpasses, rfl | ⟨cause, hstuck⟩⟩ := exists_passes text
  · rw [List.append_nil]
    have hscan := scan_insert_space_of_passes hc hpasses
    rwa [List.append_nil] at hscan
  · -- The scan is stuck before the end, with or without white space there.
    obtain ⟨ts, held, hts, -, hscan⟩ := scanFrom_of_passes hpasses (Nat.zero_add _) (before_none 0)
    have hlength : before.length < (before ++ rest).length := by
      cases hstuck <;> simp
    have hts' : ∀ token ∈ ts, token.position < (before ++ rest).length :=
      fun token htoken => Nat.lt_trans (hts token htoken) hlength
    have hhead : (rest ++ [c]).head? = some quote → rest.head? = some quote := by
      cases hstuck <;> exact id
    rw [List.append_assoc, scan, scan, hscan _ hhead, hscan rest id, scanFrom_of_stuck hstuck,
      scanFrom_of_stuck (hstuck.append (ne_quote_of_isSpace hc)), Scan.move_prepend,
      map_move_pushed hts']
    cases hstuck <;>
      simp [Scan.move, RuleError.move, RuleError.Cause.move, pushed_of_lt]

theorem scan_insert_space (hc : isSpace c = true) (h : Passes rest before ∨ rest = []) :
    scan (before ++ c :: rest) = (scan (before ++ rest)).move (pushed before.length) := by
  rcases h with h | rfl
  · exact scan_insert_space_of_passes hc h
  · rw [List.append_nil]
    exact scan_append_space hc before

theorem isBlank_insert_space (hc : isSpace c = true) (before rest : Text) :
    Text.isBlank (before ++ c :: rest) = Text.isBlank (before ++ rest) := by
  simp [Text.isBlank, hc]

/-- White space that is put into a text where the scan stands, or at its end, changes nothing but
the positions from there on: the text is accepted as it was, with the same relations and elements in
the same order, or refused as it was. -/
theorem parse_insert_space (hblank : Text.isBlank (before ++ rest) = false)
    (h : Passes rest before ∨ rest = []) (hc : isSpace c = true) :
    (∀ ss, parse form (before ++ rest) = .ok ss →
      parse form (before ++ c :: rest) = .ok (ss.map (Statement.move (pushed before.length)))) ∧
    (∀ e, parse form (before ++ rest) = .error e →
      parse form (before ++ c :: rest) = .error (e.move (pushed before.length))) := by
  have hinserted : parse form (before ++ c :: rest) =
      moveOutcome (pushed before.length) (List.map (Statement.move (pushed before.length)))
        (parse form (before ++ rest)) := by
    unfold parse
    rw [isBlank_insert_space hc, hblank, scan_insert_space hc h]
    exact judge_move (scan (before ++ rest))
  constructor
  · intro ss hss
    rw [hinserted, hss]
    rfl
  · intro e he
    rw [hinserted, he]
    rfl

/-- A quoted run with an apostrophe in it, and a letter of the same operand after it. -/
theorem parse_insert_space_quoted :
    Text.isBlank ("'it''s'" ++ "d , x") = false ∧ Passes "d , x" "'it''s'" ∧
    isSpace '\t' = true ∧
    parse none ("'it''s'" ++ '\t' :: "d , x") =
      .ok [⟨.primary, ['i', 't', '\'', 's', 'd'], 0⟩, ⟨.tertiary, ['x'], 12⟩] := by
  have hblank : Text.isBlank ("'it''s'" ++ "d , x") = false := by decide
  have hpasses : Passes "d , x" "'it''s'" :=
    .piece (.quoted ['i', 't', '\'', 's']) ⟨by decide, by decide, by decide⟩ .start
  have hparse : parse none ("'it''s'" ++ "d , x") =
      .ok [⟨.primary, ['i', 't', '\'', 's', 'd'], 0⟩, ⟨.tertiary, ['x'], 11⟩] := by
    decide +kernel
  refine ⟨hblank, hpasses, by decide, ?_⟩
  exact (parse_insert_space hblank (Or.inl hpasses) (by decide)).1 _ hparse

end Collation.Rule
