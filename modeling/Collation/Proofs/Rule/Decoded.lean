import Collation.Proofs.Text.Lines
import Collation.Proofs.Text.Parts
import Collation.Rule.File

/-! Rule files that are decoded already. A decoded text is one line without white space at its ends
and is no comment, so that decoding it again changes nothing. The comment sign must not hold the
blank that comes to stand between lines: only then a sign that is longer than the first line cannot
arise from two lines. -/

namespace Collation.Rule

variable {comment content line t : Text} {ls : List Text}

/-- One line, stripped, which is no comment unless it is empty. -/
structure Decoded (comment t : Text) : Prop where
  no_break : ∀ c ∈ t, isLineBreak c = false
  stripped : Text.strip t = t
  no_comment : t ≠ [] → ¬comment <+: t

theorem isData_iff : isData comment line = true ↔ line ≠ [] ∧ ¬comment <+: line := by
  rw [isData, Bool.and_eq_true, Bool.not_eq_true', Bool.not_eq_true', List.isEmpty_eq_false_iff,
    ← Bool.not_eq_true, List.isPrefixOf_iff_prefix]

theorem Decoded.lines (h : Decoded comment t) (hne : t ≠ []) : Text.lines t = [t] := by
  have hlines := Text.lines_append_of_no_break h.no_break hne []
  rw [List.append_nil] at hlines
  exact hlines.trans (congrArg (· :: []) (List.append_nil t))

theorem decodeFile_of_decoded (h : Decoded comment t) : decodeFile comment t = t := by
  by_cases hne : t = []
  · rw [hne]
    rfl
  · have hdata : isData comment t = true := isData_iff.mpr ⟨hne, h.no_comment hne⟩
    rw [decodeFile, h.lines hne, List.map_singleton, h.stripped,
      List.filter_cons_of_pos hdata, List.filter_nil]
    exact List.append_nil t

/-- Each line that is kept is a decoded text on its own. -/
theorem decoded_of_kept (h : line ∈ ((Text.lines content).map Text.strip).filter (isData comment)) :
    line ≠ [] ∧ Decoded comment line := by
  obtain ⟨hmem, hdata⟩ := List.mem_filter.mp h
  obtain ⟨whole, hwhole, rfl⟩ := List.mem_map.mp hmem
  obtain ⟨hne, hcomment⟩ := isData_iff.mp hdata
  refine ⟨hne, fun c hc => ?_, Text.strip_strip whole, fun _ => hcomment⟩
  exact Text.not_isLineBreak_of_mem_lines hwhole ((Text.strip_infix whole).mem hc)

/-- A sign that does not hold the separator cannot go on behind the first part. -/
theorem prefix_of_prefix_append_cons {sign : Text} {c : Char} (hc : c ∉ sign) {rest : Text}
    (h : sign <+: line ++ c :: rest) : sign <+: line := by
  rcases List.prefix_or_prefix_of_prefix h (List.prefix_append line (c :: rest)) with
    hsign | ⟨more, rfl⟩
  · exact hsign
  · cases more with
    | nil => simp
    | cons d more =>
      obtain ⟨rfl, -⟩ := List.cons_prefix_cons.mp ((List.prefix_append_right_inj line).mp h)
      exact absurd (List.mem_append_right line List.mem_cons_self) hc

theorem decoded_join (hcomment : ' ' ∉ comment)
    (h : ∀ line ∈ ls, line ≠ [] ∧ Decoded comment line) : Decoded comment (Text.join [' '] ls) := by
  cases ls with
  | nil => exact ⟨List.forall_mem_nil _, rfl, absurd rfl⟩
  | cons first more =>
    obtain ⟨hne, hfirst⟩ := h first List.mem_cons_self
    refine ⟨fun c hc => ?_, Text.strip_of_ends ?_ ?_, fun _ hprefix => hfirst.no_comment hne ?_⟩
    · rcases Text.mem_join hc with rfl | ⟨line, hline, hc⟩
      · decide
      · exact (h line hline).2.no_break c hc
    · rw [Text.head?_join_cons hne]
      exact (Text.ends_of_strip_eq hfirst.stripped).1
    · obtain ⟨before, last, hlast⟩ :=
        (List.eq_nil_or_concat' (first :: more)).resolve_left (List.cons_ne_nil _ _)
      obtain ⟨hlastne, hlastline⟩ := h last (by simp [hlast])
      rw [hlast, Text.getLast?_join_concat hlastne]
      exact (Text.ends_of_strip_eq hlastline.stripped).2
    · cases more with
      | nil => rwa [Text.join_cons, List.flatMap_nil, List.append_nil] at hprefix
      | cons next more =>
        rw [Text.join_cons_of_ne_nil (List.cons_ne_nil _ _)] at hprefix
        exact prefix_of_prefix_append_cons hcomment hprefix

theorem decoded_decodeFile (hcomment : ' ' ∉ comment) (content : Text) :
    Decoded comment (decodeFile comment content) :=
  decoded_join hcomment fun _ => decoded_of_kept

/-- Decoding a text twice is decoding it once, if there is no blank in the comment sign. What is
decoded is a single line, has no white space at either end, and does not start with the sign unless
it is empty. -/
theorem decodeFile_twice (hcomment : ' ' ∉ comment) (content : Text) :
    let decoded := decodeFile comment content
    decodeFile comment decoded = decoded ∧
    (∀ c ∈ decoded, isLineBreak c = false) ∧
    (decoded ≠ [] → Text.lines decoded = [decoded]) ∧
    (∀ c ∈ decoded.head?, isSpace c = false) ∧ (∀ c ∈ decoded.getLast?, isSpace c = false) ∧
    (decoded ≠ [] → ¬comment <+: decoded) := by
  intro decoded
  have h : Decoded comment decoded := decoded_decodeFile hcomment content
  obtain ⟨hfirst, hlast⟩ := Text.ends_of_strip_eq h.stripped
  exact ⟨decodeFile_of_decoded h, h.no_break, h.lines, hfirst, hlast, h.no_comment⟩

/-- A sign that is longer than the first line, between line ends of several kinds. -/
theorem decodeFile_twice_long_sign :
    let content : Text := "\u2028 ab\r\n\t;c\u2003\x1c ab;d\u0085"
    ' ' ∉ ("ab;".toList) ∧ decodeFile "ab;" content = "ab ;c" ∧
    decodeFile "ab;" "ab ;c" = "ab ;c" := by
  intro content
  have hcomment : ' ' ∉ "ab;".toList := by decide
  have hdecoded : decodeFile "ab;" content = "ab ;c" := by decide
  obtain ⟨htwice, -⟩ := decodeFile_twice hcomment content
  rw [hdecoded] at htwice
  exact ⟨hcomment, hdecoded, htwice⟩

/-- With a blank in the sign, two lines can make a comment. -/
example : decodeFile "a b" "a\nb" = "a b" ∧ decodeFile "a b" "a b" = "" := by
  decide

end Collation.Rule
