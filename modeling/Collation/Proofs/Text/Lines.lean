import Mathlib.Data.List.DropRight
import Collation.Text

/-! Lines of a text that is put together from parts, lines that are printed, and the white space at
the ends of a text. -/

namespace Collation

theorem isSpace_of_isLineBreak {c : Char} (h : isLineBreak c = true) : isSpace c = true := by
  simp only [isLineBreak, isSpace, Bool.or_eq_true, Bool.and_eq_true, decide_eq_true_eq] at h ⊢
  omega

theorem dropWhile_append_cons {α : Type} {p : α → Bool} {x : α} (hx : p x = false)
    (xs ys : List α) : (xs ++ x :: ys).dropWhile p = xs.dropWhile p ++ x :: ys := by
  induction xs with
  | nil => simp [hx]
  | cons y xs ih =>
    cases hy : p y with
    | true => rw [List.cons_append, List.dropWhile_cons_of_pos hy, List.dropWhile_cons_of_pos hy, ih]
    | false => simp [hy]

namespace Text

variable {a b t w rest line separator : Text} {c : Char} {ls : List Text}

theorem isBlank_cons (c : Char) (t : Text) : isBlank (c :: t) = (isSpace c && isBlank t) := rfl

theorem isBlank_append (a b : Text) : isBlank (a ++ b) = (isBlank a && isBlank b) :=
  List.all_append

/-! White space at the ends. -/

theorem stripLeft_append_cons (ha : isBlank a = true) (hc : isSpace c = false) (t : Text) :
    stripLeft (a ++ c :: t) = c :: t := by
  have hdrop : a.dropWhile isSpace = [] :=
    List.dropWhile_eq_nil_iff.mpr (List.all_eq_true.mp ha)
  rw [stripLeft, dropWhile_append_cons hc, hdrop, List.nil_append]

theorem stripRight_append_cons (a : Text) (hc : isSpace c = false) (t : Text) :
    stripRight (a ++ c :: t) = a ++ c :: stripRight t := by
  have hreverse : (a ++ c :: t).reverse = t.reverse ++ c :: a.reverse := by simp
  rw [stripRight, hreverse, dropWhile_append_cons hc]
  simp [stripRight]

theorem stripRight_of_isBlank (h : isBlank t = true) : stripRight t = [] :=
  List.rdropWhile_eq_nil_iff.mpr (List.all_eq_true.mp h)

/-- A text is blank, or white space and then a character that is none. -/
theorem isBlank_or_eq_append_cons (t : Text) :
    isBlank t = true ∨
    ∃ lead c rest, t = lead ++ c :: rest ∧ isBlank lead = true ∧ isSpace c = false := by
  induction t with
  | nil => exact Or.inl rfl
  | cons c t ih =>
    cases hc : isSpace c with
    | false => exact Or.inr ⟨[], c, t, rfl, rfl, hc⟩
    | true =>
      rcases ih with hblank | ⟨lead, d, rest, rfl, hlead, hd⟩
      · exact Or.inl (by rw [isBlank_cons, hc, hblank]; rfl)
      · exact Or.inr ⟨c :: lead, d, rest, rfl, by rw [isBlank_cons, hc, hlead]; rfl, hd⟩

theorem strip_append_cons (ha : isBlank a = true) (hc : isSpace c = false) (t : Text) :
    strip (a ++ c :: t) = c :: stripRight t := by
  rw [strip, stripLeft_append_cons ha hc]
  exact stripRight_append_cons [] hc t

theorem strip_of_isBlank (h : isBlank t = true) : strip t = [] := by
  have hleft : stripLeft t = [] := List.dropWhile_eq_nil_iff.mpr (List.all_eq_true.mp h)
  rw [strip, hleft]
  rfl

theorem strip_cons_space (hc : isSpace c = true) (t : Text) : strip (c :: t) = strip t := by
  rw [strip, strip, stripLeft, stripLeft, List.dropWhile_cons_of_pos hc]

theorem head?_strip (t : Text) : (strip t).head? = (stripLeft t).head? := by
  rcases isBlank_or_eq_append_cons t with hblank | ⟨lead, c, rest, rfl, hlead, hc⟩
  · rw [strip_of_isBlank hblank]
    exact (congrArg List.head?
      (List.dropWhile_eq_nil_iff.mpr (List.all_eq_true.mp hblank))).symm
  · rw [strip_append_cons hlead hc, stripLeft_append_cons hlead hc]
    rfl

theorem head?_stripLeft_of_prefix (h : line <+: t) (hc : (stripLeft line).head? = some c) :
    (stripLeft t).head? = some c := by
  obtain ⟨more, rfl⟩ := h
  rcases isBlank_or_eq_append_cons line with hblank | ⟨lead, d, rest, rfl, hlead, hd⟩
  · have hnil : stripLeft line = [] :=
      List.dropWhile_eq_nil_iff.mpr (List.all_eq_true.mp hblank)
    rw [hnil] at hc
    contradiction
  · rw [stripLeft_append_cons hlead hd] at hc
    rw [List.append_assoc, List.cons_append, stripLeft_append_cons hlead hd]
    exact hc

/-- What is left at the start of a text that is stripped on the right only is white space. -/
theorem stripRight_eq_append_strip (t : Text) :
    ∃ lead, isBlank lead = true ∧ stripRight t = lead ++ strip t := by
  rcases isBlank_or_eq_append_cons t with hblank | ⟨lead, c, rest, rfl, hlead, hc⟩
  · exact ⟨[], rfl, by rw [stripRight_of_isBlank hblank, strip_of_isBlank hblank]; rfl⟩
  · exact ⟨lead, hlead, by rw [stripRight_append_cons lead hc, strip_append_cons hlead hc]⟩

/-- A text between two characters that are no white space is not touched. -/
theorem strip_append (hfirst : ∀ c ∈ w.head?, isSpace c = false)
    (hlast : ∀ c ∈ w.getLast?, isSpace c = false) (hne : w ≠ []) (line : Text) :
    strip (w ++ line) = w ++ stripRight line := by
  obtain ⟨c, w', rfl⟩ := List.exists_cons_of_ne_nil hne
  obtain ⟨before, d, hd⟩ := (List.eq_nil_or_concat' (c :: w')).resolve_left hne
  have hc : isSpace c = false := hfirst c rfl
  have hspace : isSpace d = false := hlast d (by rw [hd, List.getLast?_concat]; rfl)
  have hleft : stripLeft (c :: w' ++ line) = c :: w' ++ line :=
    stripLeft_append_cons (a := []) rfl hc (w' ++ line)
  rw [strip, hleft, hd, List.append_assoc, List.append_assoc]
  exact stripRight_append_cons before hspace line

/-- A text without white space at its ends is stripped. -/
theorem strip_of_ends (hfirst : ∀ c ∈ t.head?, isSpace c = false)
    (hlast : ∀ c ∈ t.getLast?, isSpace c = false) : strip t = t := by
  by_cases hne : t = []
  · rw [hne]
    rfl
  · have hstrip := strip_append hfirst hlast hne []
    rwa [List.append_nil, stripRight_of_isBlank rfl, List.append_nil] at hstrip

theorem strip_infix (t : Text) : strip t <:+: t :=
  (List.rdropWhile_prefix isSpace (stripLeft t)).isInfix.trans
    (List.dropWhile_suffix isSpace).isInfix

theorem strip_strip (t : Text) : strip (strip t) = strip t := by
  rcases isBlank_or_eq_append_cons t with hblank | ⟨lead, c, rest, rfl, hlead, hc⟩
  · rw [strip_of_isBlank hblank]
    rfl
  · have hagain : strip (c :: stripRight rest) = c :: stripRight (stripRight rest) :=
      strip_append_cons (a := []) rfl hc (stripRight rest)
    have hright : stripRight (stripRight rest) = stripRight rest :=
      List.rdropWhile_idempotent isSpace rest
    rw [strip_append_cons hlead hc, hagain, hright]

/-- A text that is stripped has no white space at its ends. -/
theorem ends_of_strip_eq (h : strip t = t) :
    (∀ c ∈ t.head?, isSpace c = false) ∧ ∀ c ∈ t.getLast?, isSpace c = false := by
  constructor
  · intro c hc
    rw [← h, head?_strip] at hc
    have hnot := List.head?_dropWhile_not isSpace t
    rw [← stripLeft, Option.mem_def.mp hc] at hnot
    exact hnot
  · intro c hc
    have hne : stripRight (stripLeft t) ≠ [] := by
      intro hnil
      have htext : t = [] := h.symm.trans hnil
      rw [htext] at hc
      contradiction
    have hlast : (stripRight (stripLeft t)).getLast hne = c := by
      have hsome := List.getLast?_eq_some_getLast hne
      have hstrip : stripRight (stripLeft t) = t := h
      exact Option.some.inj (hsome.symm.trans ((congrArg List.getLast? hstrip).trans hc))
    have hnot := List.rdropWhile_last_not isSpace (stripLeft t) hne
    rw [← hlast]
    exact Bool.eq_false_iff.mpr hnot

/-! Lines. -/

/-- A character that ends no line belongs to the line of the text after it. -/
theorem lines_cons (hc : isLineBreak c = false) (rest : Text) :
    lines (c :: rest) = (c :: (lines rest).headD []) :: (lines rest).tail := by
  rw [lines, if_neg (by simp [hc])]
  · cases lines rest <;> rfl
  · rintro after rfl -
    exact absurd hc (by decide)

/-- A line end at the start ends an empty line. -/
theorem lines_break (hc : isLineBreak c = true)
    (hfeed : c = '\r' → rest.head? ≠ some '\n') : lines (c :: rest) = [] :: lines rest := by
  rw [lines, if_pos hc]
  rintro after rfl rfl
  exact hfeed rfl rfl

theorem lines_newline (rest : Text) : lines ('\n' :: rest) = [] :: lines rest :=
  lines_break (by decide) fun h => absurd h (by decide)

/-- A carriage return before a line feed counts with it. -/
theorem lines_feed (rest : Text) : lines ('\r' :: '\n' :: rest) = lines ('\n' :: rest) := by
  rw [lines_newline, lines]

theorem feed_or_break (c : Char) (rest : Text) :
    (∃ after, c = '\r' ∧ rest = '\n' :: after) ∨ (c = '\r' → rest.head? ≠ some '\n') := by
  by_cases hfeed : c = '\r' ∧ rest.head? = some '\n'
  · obtain ⟨hc, hhead⟩ := hfeed
    exact Or.inl ((List.head?_eq_some_iff.mp hhead).imp fun _ h => ⟨hc, h⟩)
  · exact Or.inr fun hc hhead => hfeed ⟨hc, hhead⟩

theorem lines_cons_ne_nil (c : Char) (rest : Text) : lines (c :: rest) ≠ [] := by
  cases hc : isLineBreak c with
  | false => simp [lines_cons hc]
  | true =>
    obtain ⟨after, rfl, rfl⟩ | hfeed := feed_or_break c rest
    · simp [lines_feed, lines_newline]
    · simp [lines_break hc hfeed]

theorem lines_append_of_no_break (hw : ∀ c ∈ w, isLineBreak c = false) (hne : w ≠ [])
    (rest : Text) : lines (w ++ rest) = (w ++ (lines rest).headD []) :: (lines rest).tail := by
  induction w with
  | nil => exact absurd rfl hne
  | cons c w ih =>
    obtain ⟨hc, hw⟩ := List.forall_mem_cons.mp hw
    rw [List.cons_append, lines_cons hc]
    cases w with
    | nil => rfl
    | cons d w =>
      rw [ih hw (List.cons_ne_nil d w)]
      rfl

theorem head_lines_prefix (t : Text) : (lines t).headD [] <+: t := by
  induction t with
  | nil => exact List.nil_prefix
  | cons c t ih =>
    cases hc : isLineBreak c with
    | false =>
      rw [lines_cons hc]
      exact List.cons_prefix_cons.mpr ⟨rfl, ih⟩
    | true =>
      obtain ⟨after, rfl, rfl⟩ | hfeed := feed_or_break c t
      · rw [lines_feed, lines_newline]
        exact List.nil_prefix
      · rw [lines_break hc hfeed]
        exact List.nil_prefix

/-- A text that ends with the end of a line is cut into lines apart from what follows, but for a line
feed that counts with that end. -/
theorem lines_append (ha : ∀ c ∈ a.getLast?, isLineBreak c = true) (b : Text) :
    ∃ after, (after = b ∨ b = '\n' :: after) ∧ lines (a ++ b) = lines a ++ lines after := by
  induction a with
  | nil => exact ⟨b, Or.inl rfl, rfl⟩
  | cons c a ih =>
    cases a with
    | nil =>
      have hc : isLineBreak c = true := ha c rfl
      have hone : lines [c] = [[]] := lines_break hc (by simp)
      rw [hone, List.cons_append, List.nil_append]
      obtain ⟨after, rfl, rfl⟩ | hfeed := feed_or_break c b
      · exact ⟨after, Or.inr rfl, by rw [lines_feed, lines_newline]; rfl⟩
      · exact ⟨b, Or.inl rfl, lines_break hc hfeed⟩
    | cons d a =>
      -- The first two characters may be one line end, and then the second one is cut off with it.
      obtain ⟨after, hafter, hlines⟩ := ih (by simpa using ha)
      refine ⟨after, hafter, ?_⟩
      cases hc : isLineBreak c with
      | false =>
        obtain ⟨line, more, hmore⟩ := List.exists_cons_of_ne_nil (lines_cons_ne_nil d a)
        rw [List.cons_append, lines_cons hc, lines_cons hc, hlines, hmore]
        rfl
      | true =>
        obtain ⟨_, rfl, hd⟩ | hfeed := feed_or_break c (d :: a)
        · obtain ⟨rfl, rfl⟩ := List.cons.inj hd
          rw [lines_feed, ← hlines]
          exact lines_feed _
        · have hfeed' : c = '\r' → (d :: a ++ b).head? ≠ some '\n' := hfeed
          rw [lines_break hc hfeed, List.cons_append, lines_break hc hfeed', hlines]
          rfl

/-- The end of a line that is put at the end of a text ends the last line, or one that is empty. -/
theorem lines_concat_break (hc : isLineBreak c = true) (t : Text) :
    lines (t ++ [c]) = lines t ∨ lines (t ++ [c]) = lines t ++ [[]] := by
  have hone : lines [c] = [[]] := lines_break hc (by simp)
  induction t with
  | nil => exact Or.inr hone
  | cons d t ih =>
    cases hd : isLineBreak d with
    | false =>
      rw [List.cons_append, lines_cons hd, lines_cons hd]
      cases t with
      | nil =>
        rw [List.nil_append, hone]
        exact Or.inl rfl
      | cons e t =>
        obtain ⟨line, more, hmore⟩ := List.exists_cons_of_ne_nil (lines_cons_ne_nil e t)
        rw [hmore] at ih ⊢
        rcases ih with h | h
        · exact Or.inl (by rw [h])
        · exact Or.inr (by rw [h]; rfl)
    | true =>
      obtain ⟨after, rfl, rfl⟩ | hfeed := feed_or_break d t
      · rw [lines_feed]
        exact ih
      · obtain ⟨after, rfl, hfirst⟩ | hfeed' := feed_or_break d (t ++ [c])
        · cases t with
          | nil =>
            obtain ⟨rfl, -⟩ := List.cons.inj hfirst
            exact Or.inl (by rw [List.cons_append, List.nil_append, lines_feed, hone]; rfl)
          | cons e t => exact absurd (congrArg List.head? hfirst) (hfeed rfl)
        · rw [List.cons_append, lines_break hd hfeed, lines_break hd hfeed']
          exact ih.imp (congrArg _) (congrArg _)

/-! Lines that are printed. -/

/-- Each line with a line feed after it. -/
def printed (ls : List Text) : Text :=
  ls.flatMap (· ++ ['\n'])

theorem printed_cons (line : Text) (ls : List Text) :
    printed (line :: ls) = line ++ '\n' :: printed ls := by
  rw [printed, List.flatMap_cons, List.append_assoc]
  rfl

/-- No line has the end of a line within it. -/
theorem not_isLineBreak_of_mem_lines (hline : line ∈ lines t) (hc : c ∈ line) :
    isLineBreak c = false := by
  induction t generalizing line with
  | nil => exact absurd hline List.not_mem_nil
  | cons d t ih =>
    cases hd : isLineBreak d with
    | true =>
      have hrest : line = [] ∨ line ∈ lines t := by
        obtain ⟨after, rfl, rfl⟩ | hfeed := feed_or_break d t
        · rw [lines_feed] at hline
          exact Or.inr hline
        · rw [lines_break hd hfeed] at hline
          exact List.mem_cons.mp hline
      rcases hrest with rfl | hrest
      · exact absurd hc List.not_mem_nil
      · exact ih hrest hc
    | false =>
      rw [lines_cons hd] at hline
      rcases List.mem_cons.mp hline with rfl | hline
      · rcases List.mem_cons.mp hc with rfl | hc
        · exact hd
        · cases hlines : lines t with
          | nil =>
            rw [hlines] at hc
            exact absurd hc List.not_mem_nil
          | cons first more =>
            rw [hlines] at hc
            exact ih (by rw [hlines]; exact List.mem_cons_self) hc
      · exact ih (List.mem_of_mem_tail hline) hc

theorem not_isLineBreak_of_lines (h : lines t = ls) :
    ∀ line ∈ ls, ∀ c ∈ line, isLineBreak c = false := by
  subst h
  exact fun _ hline _ => not_isLineBreak_of_mem_lines hline

/-- Lines that are printed are the lines of what was printed. -/
theorem lines_printed (h : ∀ line ∈ ls, ∀ c ∈ line, isLineBreak c = false) :
    lines (printed ls) = ls := by
  induction ls with
  | nil => rfl
  | cons line ls ih =>
    obtain ⟨hline, hls⟩ := List.forall_mem_cons.mp h
    rw [printed_cons]
    by_cases hempty : line = []
    · rw [hempty, List.nil_append, lines_newline, ih hls]
    · rw [lines_append_of_no_break hline hempty, lines_newline, ih hls]
      simp

theorem eq_of_printed_eq {ms : List Text} (hls : ∀ line ∈ ls, ∀ c ∈ line, isLineBreak c = false)
    (hms : ∀ line ∈ ms, ∀ c ∈ line, isLineBreak c = false) (h : printed ls = printed ms) :
    ls = ms := by
  rw [← lines_printed hls, h, lines_printed hms]

theorem unifyNewlines_of_not_mem (h : '\r' ∉ t) : unifyNewlines t = t := by
  induction t with
  | nil => rfl
  | cons c t ih =>
    have hc : c ≠ '\r' := fun hc => h (hc ▸ List.mem_cons_self)
    rw [unifyNewlines, ih fun ht => h (List.mem_cons_of_mem c ht)]
    · exact fun after hc' _ => hc hc'
    · exact hc

theorem unifyNewlines_printed (h : ∀ line ∈ ls, ∀ c ∈ line, isLineBreak c = false) :
    unifyNewlines (printed ls) = printed ls := by
  apply unifyNewlines_of_not_mem
  intro hmem
  obtain ⟨line, hline, hc⟩ := List.mem_flatMap.mp hmem
  rcases List.mem_append.mp hc with hc | hc
  · exact absurd (h line hline _ hc) (by decide)
  · exact absurd (List.mem_singleton.mp hc) (by decide)

end Text

end Collation
