import Collation.Proofs.Rule.Acceptance
import Collation.Proofs.Rule.Place
import Collation.Proofs.Rule.Position
import Collation.Proofs.Text.Lines
import Collation.Rule.File

/-! Rule files. What is left out of a rule text that is written on several lines, and what comes to
stand between the lines in its place, is white space for the scan, as long as no quoted run goes over
a line end. -/

namespace Collation.Rule

/-- A blank line, or a line whose first character that is no white space is the comment sign. -/
def IsNote (line : Text) : Prop :=
  Text.isBlank line = true ∨ (Text.stripLeft line).head? = some '#'

instance (line : Text) : Decidable (IsNote line) :=
  inferInstanceAs (Decidable (_ ∨ _))

/-- A text into which notes are put: any number of lines at the start of one of its lines or at its
end, and as many after its last line, which may have to be ended first. -/
inductive Annotated (s : Text) : Text → Prop
  | self : Annotated s s
  | insert {a notes b : Text} (h : Annotated s (a ++ b))
      (hstart : ∀ c ∈ a.getLast?, isLineBreak c = true)
      (hnotes : ∀ line ∈ Text.lines notes, IsNote line)
      (hend : b = [] ∨ ∀ c ∈ notes.getLast?, isLineBreak c = true) : Annotated s (a ++ notes ++ b)
  | append {a notes : Text} {c : Char} (h : Annotated s a) (hc : isLineBreak c = true)
      (hnotes : ∀ line ∈ Text.lines notes, IsNote line) : Annotated s (a ++ [c] ++ notes)

/-- The lines of a rule file that are kept, without the white space round them. -/
def dataLines (ls : List Text) : List Text :=
  (ls.map Text.strip).filter (isData commentSign)

variable {form : Option Form} {a b s t text line rest : Text} {ls : List Text} {c : Char}
  {items items' : List Item} {n m : Nat} {ss : List Statement}

theorem decodeFile_eq_join (text : Text) :
    decodeFile commentSign text = Text.join [' '] (dataLines (Text.lines text)) := rfl

theorem isData_eq_true_iff : isData commentSign t = true ↔ t ≠ [] ∧ t.head? ≠ some '#' := by
  cases t with
  | nil => simp [isData]
  | cons c t =>
    have hsign : commentSign = ['#'] := rfl
    rw [isData, hsign]
    simp [List.isPrefixOf, @eq_comm Char '#' c]

theorem isData_of_isNote (h : IsNote line) : isData commentSign (Text.strip line) = false := by
  rw [← Bool.not_eq_true, isData_eq_true_iff]
  rintro ⟨hne, hhead⟩
  rcases h with hblank | hcomment
  · exact hne (Text.strip_of_isBlank hblank)
  · exact hhead ((Text.head?_strip line).trans hcomment)

theorem dataLines_append (ls ms : List Text) :
    dataLines (ls ++ ms) = dataLines ls ++ dataLines ms := by
  rw [dataLines, List.map_append, List.filter_append]
  rfl

theorem dataLines_blank (ls : List Text) : dataLines ([] :: ls) = dataLines ls := rfl

theorem dataLines_cons (line : Text) (ls : List Text) : dataLines (line :: ls) =
    if isData commentSign (Text.strip line) = true then Text.strip line :: dataLines ls
    else dataLines ls := by
  rw [dataLines, List.map_cons, List.filter_cons]
  rfl

theorem dataLines_head (ls : List Text) : dataLines (ls.headD [] :: ls.tail) = dataLines ls := by
  cases ls <;> rfl

theorem dataLines_of_strip_eq (h : Text.strip line = Text.strip t) (ls : List Text) :
    dataLines (line :: ls) = dataLines (t :: ls) := by
  rw [dataLines, dataLines, List.map_cons, List.map_cons, h]

theorem dataLines_notes (h : ∀ line ∈ ls, IsNote line) : dataLines ls = [] := by
  rw [dataLines, List.filter_eq_nil_iff]
  intro t ht
  obtain ⟨line, hline, rfl⟩ := List.mem_map.mp ht
  simpa using isData_of_isNote (h line hline)

theorem dataLines_lines_append (ha : ∀ c ∈ a.getLast?, isLineBreak c = true) (b : Text) :
    dataLines (Text.lines (a ++ b)) = dataLines (Text.lines a) ++ dataLines (Text.lines b) := by
  obtain ⟨after, rfl | rfl, hlines⟩ := Text.lines_append ha b
  · rw [hlines, dataLines_append]
  · rw [hlines, dataLines_append, Text.lines_newline, dataLines_blank]

/-- Notes are left out, wherever they are put in. -/
theorem decodeFile_annotated (h : Annotated s t) :
    decodeFile commentSign t = decodeFile commentSign s := by
  suffices hdata : dataLines (Text.lines t) = dataLines (Text.lines s) by
    rw [decodeFile_eq_join, hdata, ← decodeFile_eq_join]
  induction h with
  | self => rfl
  | @insert a notes b _ hstart hnotes hend ih =>
    have hrest : dataLines (Text.lines (notes ++ b)) = dataLines (Text.lines b) := by
      rcases hend with rfl | hend
      · rw [List.append_nil, dataLines_notes hnotes]
        rfl
      · rw [dataLines_lines_append hend, dataLines_notes hnotes, List.nil_append]
    rw [← ih, List.append_assoc, dataLines_lines_append hstart, hrest,
      dataLines_lines_append hstart]
  | @append a notes c _ hc hnotes ih =>
    have hlast : ∀ d ∈ (a ++ [c]).getLast?, isLineBreak d = true := by simpa using hc
    rw [dataLines_lines_append hlast, dataLines_notes hnotes, List.append_nil, ← ih]
    rcases Text.lines_concat_break hc a with h | h
    · rw [h]
    · rw [h, dataLines_append]
      exact List.append_nil _

/-! What decoding does to the start of a text: white space goes, and a piece stays as it is. -/

theorem decodeFile_space (hc : isSpace c = true) (rest : Text) :
    decodeFile commentSign (c :: rest) = decodeFile commentSign rest := by
  suffices hdata : dataLines (Text.lines (c :: rest)) = dataLines (Text.lines rest) by
    rw [decodeFile_eq_join, hdata, ← decodeFile_eq_join]
  cases hbreak : isLineBreak c with
  | true =>
    have hlast : ∀ d ∈ [c].getLast?, isLineBreak d = true := by simpa using hbreak
    have hnil : dataLines (Text.lines [c]) = [] := by
      rw [Text.lines_break hbreak (by simp)]
      rfl
    have happend := dataLines_lines_append hlast rest
    rwa [hnil] at happend
  | false =>
    rw [Text.lines_cons hbreak, dataLines_of_strip_eq (Text.strip_cons_space hc _), dataLines_head]

theorem join_append (a b : Text) (ts : List Text) :
    Text.join [' '] ((a ++ b) :: ts) = a ++ Text.join [' '] (b :: ts) := by
  cases ts <;> simp [Text.join]

/-- The text between a line of white space and the data lines after it. -/
theorem join_nil_cons (ts : List Text) :
    ∃ blank, Text.isBlank blank = true ∧ (ts = [] ∨ blank = [' ']) ∧
      Text.join [' '] ([] :: ts) = blank ++ Text.join [' '] ts := by
  cases ts with
  | nil => exact ⟨[], rfl, Or.inl rfl, rfl⟩
  | cons t ts => exact ⟨[' '], rfl, Or.inr rfl, by simp [Text.join]⟩

theorem eq_nil_of_head?_append (ha : Text.isBlank a = true) (hhead : (a ++ b).head? = some c)
    (hc : isSpace c = false) : a = [] := by
  cases a with
  | nil => rfl
  | cons d a =>
    obtain rfl : d = c := Option.some.inj hhead
    rw [Text.isBlank_cons, hc] at ha
    contradiction

/-- A piece, or an operator, at the start of a text that is not a comment there. White space comes
to stand after it, or else what stands after it in the text. -/
theorem decodeFile_append {w : Text} (hbreak : ∀ c ∈ w, isLineBreak c = false) (hne : w ≠ [])
    (hfirst : ∀ c ∈ w.head?, isSpace c = false ∧ c ≠ '#')
    (hlast : ∀ c ∈ w.getLast?, isSpace c = false)
    (hrest : (Text.stripLeft rest).head? ≠ some '#') :
    ∃ blank, Text.isBlank blank = true ∧
      decodeFile commentSign (w ++ rest) = w ++ (blank ++ decodeFile commentSign rest) ∧
      ∀ c, (blank ++ decodeFile commentSign rest).head? = some c → isSpace c = false →
        rest.head? = some c := by
  rw [decodeFile_eq_join, decodeFile_eq_join, Text.lines_append_of_no_break hbreak hne,
    ← dataLines_head (Text.lines rest)]
  have hprefix := Text.head_lines_prefix rest
  generalize (Text.lines rest).headD [] = line at hprefix ⊢
  generalize (Text.lines rest).tail = more
  obtain ⟨lead, hlead, hline⟩ := Text.stripRight_eq_append_strip line
  have hstrip : Text.strip (w ++ line) = w ++ (lead ++ Text.strip line) := by
    rw [Text.strip_append (fun c hc => (hfirst c hc).1) hlast hne, hline]
  have hdata : isData commentSign (w ++ (lead ++ Text.strip line)) = true := by
    rw [isData_eq_true_iff, List.head?_append_of_ne_nil _ hne]
    refine ⟨List.append_ne_nil_of_left_ne_nil hne _, fun hhead => ?_⟩
    exact (hfirst '#' hhead).2 rfl
  rw [dataLines_cons, hstrip, if_pos hdata, join_append, join_append, dataLines_cons]
  by_cases hempty : Text.strip line = []
  · -- The rest of the line is white space, and a blank may separate it from the line after it.
    obtain ⟨blank, hblank, hdatum, hjoin⟩ := join_nil_cons (dataLines more)
    have hall : Text.isBlank (lead ++ blank) = true := by
      rw [Text.isBlank_append, hlead, hblank]
      rfl
    rw [hempty, if_neg (by simp [isData]), hjoin]
    refine ⟨lead ++ blank, hall, by simp, fun c hhead hc => ?_⟩
    have hnil := List.append_eq_nil_iff.mp (eq_nil_of_head?_append hall hhead hc)
    rcases hdatum with hmore | hspace
    · rw [hnil.1, hnil.2, hmore] at hhead
      cases hhead
    · rw [hspace] at hnil
      cases hnil.2
  · have hcomment : (Text.strip line).head? ≠ some '#' := fun hhead =>
      hrest (Text.head?_stripLeft_of_prefix hprefix ((Text.head?_strip line).symm.trans hhead))
    rw [if_pos (isData_eq_true_iff.mpr ⟨hempty, hcomment⟩)]
    refine ⟨lead, hlead, rfl, fun c hhead hc => ?_⟩
    have hnil := eq_nil_of_head?_append hlead hhead hc
    have hkept : Text.strip line <+: rest := by
      rw [hnil, List.nil_append] at hline
      exact hline ▸ (List.rdropWhile_prefix isSpace line).trans hprefix
    obtain ⟨after, rfl⟩ := hkept
    rw [hnil, List.nil_append, ← List.append_nil (Text.strip line), join_append,
      List.head?_append_of_ne_nil _ hempty] at hhead
    rw [List.head?_append_of_ne_nil _ hempty, hhead]

/-! A text that divides, with no run over a line end, divides into the same items once it is
decoded. -/

theorem no_break_of_not_space (hc : isSpace c = false) : isLineBreak c = false :=
  Bool.eq_false_iff.mpr fun hbreak => Bool.eq_false_iff.mp hc (isSpace_of_isLineBreak hbreak)

theorem Relation.symbol_ne_sign (r : Relation) : r.symbol ≠ '#' := by
  cases r <;> decide

namespace Piece

variable {p : Piece}

theorem head?_written (hp : p.Fits rest) : ∀ c ∈ p.written.head?, isSpace c = false ∧ c ≠ '#' := by
  cases p with
  | plain c =>
    rintro d ⟨⟩
    refine ⟨hp.1, ?_⟩
    rintro rfl
    exact absurd hp.2.2.2 (by decide)
  | apostrophe | quoted run =>
    rintro d ⟨⟩
    decide

theorem getLast?_written (hp : p.Fits rest) : ∀ c ∈ p.written.getLast?, isSpace c = false := by
  cases p with
  | plain c =>
    rintro d ⟨⟩
    exact hp.1
  | apostrophe =>
    rintro d ⟨⟩
    decide
  | quoted run =>
    intro d hd
    rw [written, List.getLast?_concat] at hd
    obtain rfl := Option.some.inj hd
    decide

theorem mem_doubled {run : Text} (hc : c ∈ doubled run) : c ∈ run := by
  obtain ⟨d, hd, hcd⟩ := List.mem_flatMap.mp hc
  split at hcd <;> simp_all

/-- Only a run can hold the end of a line. -/
theorem no_break_written (hp : p.Fits rest)
    (hrun : ∀ run, p = .quoted run → ∀ c ∈ run, isLineBreak c = false) :
    ∀ c ∈ p.written, isLineBreak c = false := by
  have hquote : isLineBreak quote = false := by decide
  cases p with
  | plain c =>
    intro d hd
    obtain rfl := List.mem_singleton.mp hd
    exact no_break_of_not_space hp.1
  | apostrophe => simpa [written] using hquote
  | quoted run =>
    intro d hd
    simp only [written, List.cons_append, List.mem_cons, List.mem_append, List.not_mem_nil, or_false]
      at hd
    rcases hd with rfl | hd | rfl
    · exact hquote
    · exact hrun run rfl d (mem_doubled hd)
    · exact hquote

end Piece

theorem head?_stripLeft_of_divides (h : Divides n text items) :
    (Text.stripLeft text).head? ≠ some '#' := by
  induction h with
  | done => exact nofun
  | space hc _ ih => rwa [Text.stripLeft, List.dropWhile_cons_of_pos hc]
  | operator r _ _ =>
    rw [← List.nil_append (r.symbol :: _), Text.stripLeft_append_cons rfl (isSpace_symbol r)]
    exact fun hhead => Relation.symbol_ne_sign r (Option.some.inj hhead)
  | @piece n rest items p hp _ _ =>
    obtain ⟨c, w, hw⟩ := List.exists_cons_of_ne_nil p.written_ne_nil
    obtain ⟨hc, hsign⟩ := Piece.head?_written hp c (by rw [hw]; rfl)
    rw [hw, List.cons_append, ← List.nil_append (c :: _), Text.stripLeft_append_cons rfl hc]
    exact fun hhead => hsign (Option.some.inj hhead)

/-- An item somewhere else. -/
def Item.move (f : Nat → Nat) : Item → Item
  | .operator r n => .operator r (f n)
  | .piece p n => .piece p (f n)

theorem tokens_move (f : Nat → Nat) (items : List Item) :
    tokens (items.map (Item.move f)) = (tokens items).map (Token.move f) := by
  induction items with
  | nil => rfl
  | cons item items ih =>
    cases item with
    | operator r n => exact congrArg (Token.operator r (f n) :: ·) ih
    | piece p n =>
      rw [List.map_cons, Item.move, tokens, tokens, ih]
      cases tokens items with
      | nil => rfl
      | cons token ts => cases token <;> rfl

/-- Items without their places. -/
def bare (items : List Item) : List Item :=
  items.map (Item.move fun _ => 0)

theorem bare_eq_nil_iff : bare items = [] ↔ items = [] :=
  List.map_eq_nil_iff

theorem divides_append_blank (ha : Text.isBlank a = true) (h : Divides (n + a.length) text items) :
    Divides n (a ++ text) items := by
  induction a generalizing n with
  | nil => exact h
  | cons c a ih =>
    obtain ⟨hc, ha⟩ := Bool.and_eq_true_iff.mp ((Text.isBlank_cons c a).symm.trans ha)
    rw [List.length_cons, Nat.add_comm a.length 1, ← Nat.add_assoc] at h
    exact .space hc (ih ha h)

/-- Decoding changes nothing but the white space between items. -/
theorem divides_decodeFile (h : Divides n text items)
    (hruns : ∀ run k, Item.piece (.quoted run) k ∈ items → ∀ c ∈ run, isLineBreak c = false)
    (m : Nat) :
    ∃ items', Divides m (decodeFile commentSign text) items' ∧ bare items' = bare items := by
  induction h generalizing m with
  | done => exact ⟨[], .done, rfl⟩
  | space hc _ ih =>
    rw [decodeFile_space hc]
    exact ih hruns m
  | @operator n rest items r h ih =>
    obtain ⟨blank, hblank, hdecode, -⟩ := decodeFile_append (w := [r.symbol])
      (by simpa using no_break_of_not_space (isSpace_symbol r)) (by simp)
      (by simpa using And.intro (isSpace_symbol r) (Relation.symbol_ne_sign r))
      (by simpa using isSpace_symbol r) (head?_stripLeft_of_divides h)
    obtain ⟨items', hitems, hbare⟩ := ih
      (fun run k hmem => hruns run k (List.mem_cons_of_mem _ hmem)) (m + 1 + blank.length)
    have hafter := divides_append_blank hblank hitems
    rw [List.singleton_append] at hdecode
    rw [hdecode]
    refine ⟨.operator r m :: items', .operator r hafter, ?_⟩
    exact congrArg (Item.operator r 0 :: ·) hbare
  | @piece n rest items p hp h ih =>
    obtain ⟨blank, hblank, hdecode, hnext⟩ := decodeFile_append
      (Piece.no_break_written hp fun run hrun => hruns run n (by simp [hrun]))
      p.written_ne_nil (Piece.head?_written hp) (Piece.getLast?_written hp)
      (head?_stripLeft_of_divides h)
    obtain ⟨items', hitems, hbare⟩ := ih
      (fun run k hmem => hruns run k (List.mem_cons_of_mem _ hmem))
      (m + p.written.length + blank.length)
    -- No two runs are fused, and no apostrophe comes to stand after a run.
    have hfits : p.Fits (blank ++ decodeFile commentSign rest) :=
      hp.of_head? fun hquote => hnext quote hquote (by decide)
    have hafter := divides_append_blank hblank hitems
    rw [hdecode]
    refine ⟨.piece p m :: items', .piece p hfits hafter, ?_⟩
    exact congrArg (Item.piece p 0 :: ·) hbare

/-- Two texts that divide into the same items make up the same statements. -/
theorem parse_of_bare (hs : Divides 0 s items) (ht : Divides 0 t items')
    (hbare : bare items' = bare items) (h : parse form s = .ok ss) :
    ∃ ss', parse form t = .ok ss' ∧
      ss'.map (Statement.move fun _ => 0) = ss.map (Statement.move fun _ => 0) := by
  obtain ⟨hblank, hjudge⟩ := parse_eq_ok h
  have hblank' : ¬ Text.isBlank t = true := by
    rw [← items_eq_nil_iff ht, ← bare_eq_nil_iff, hbare, bare_eq_nil_iff, items_eq_nil_iff hs,
      hblank]
    decide
  have hscan : (scan t).move (fun _ => 0) = (scan s).move fun _ => 0 := by
    rw [scan_of_divides hs, scan_of_divides ht, Scan.move, Scan.move, ← tokens_move, ← tokens_move]
    exact congrArg (fun is => Scan.mk (tokens is) none) hbare
  have houtcome : judge form ((scan t).move fun _ => 0) = _ := judge_move (scan t)
  rw [hscan, judge_move, hjudge] at houtcome
  rw [parse, if_neg hblank']
  cases hjudge' : judge form (scan t) with
  | error e =>
    rw [hjudge'] at houtcome
    cases houtcome
  | ok ss' =>
    rw [hjudge'] at houtcome
    exact ⟨ss', rfl, (Except.ok.inj houtcome).symm⟩

/-- An accepted text with no quoted run over a line end keeps its rule when it is read from a file,
whatever blank lines and comments are put round its lines. -/
theorem parse_decodeFile (h : parse form s = .ok ss) (hs : Divides 0 s items)
    (hruns : ∀ run k, Item.piece (.quoted run) k ∈ items → ∀ c ∈ run, isLineBreak c = false)
    (ht : Annotated s t) :
    ∃ ss', parse form (decodeFile commentSign t) = .ok ss' ∧
      ss'.map (fun q => (q.relation, q.element)) = ss.map fun q => (q.relation, q.element) := by
  obtain ⟨items', hitems, hbare⟩ := divides_decodeFile hs hruns 0
  obtain ⟨ss', hparse, hmove⟩ := parse_of_bare hs hitems hbare h
  refine ⟨ss', by rw [decodeFile_annotated ht, hparse], ?_⟩
  have hpairs := congrArg (List.map fun q : Statement => (q.relation, q.element)) hmove
  rwa [List.map_map, List.map_map] at hpairs

/-- A run with a comment sign and white space in it, and one on the next line, which is joined to it
in one operand. -/
def brokenRules : Text :=
  "a <\n'b  #'\r\n'c', d"

def brokenItems : List Item :=
  [.piece (.plain 'a') 0, .operator .primary 2, .piece (.quoted ['b', ' ', ' ', '#']) 4,
    .piece (.quoted ['c']) 12, .operator .tertiary 15, .piece (.plain 'd') 17]

theorem brokenRules_divide : Divides 0 brokenRules brokenItems := by
  have hend : Divides 15 ", d" [.operator .tertiary 15, .piece (.plain 'd') 17] :=
    .operator .tertiary (.space (by decide)
      (.piece (.plain 'd') (fits_plain (by decide) (by decide) (by decide) (by decide)) .done))
  have hruns : Divides 4 "'b  #'\r\n'c', d" (.piece (.quoted ['b', ' ', ' ', '#']) 4 ::
      .piece (.quoted ['c']) 12 :: [.operator .tertiary 15, .piece (.plain 'd') 17]) :=
    .piece (.quoted ['b', ' ', ' ', '#']) ⟨by decide, by decide, by decide⟩
      (.space (by decide) (.space (by decide)
        (.piece (.quoted ['c']) ⟨by decide, by decide, by decide⟩ hend)))
  exact .piece (.plain 'a') (fits_plain (by decide) (by decide) (by decide) (by decide))
    (.space (by decide) (.operator .primary (.space (by decide) hruns)))

/-- Comments with apostrophes in them before the first line and after the last one, which has to be
ended, and between two lines with a blank line. -/
theorem parse_decodeFile_broken :
    parse none brokenRules = .ok [⟨.primary, ['a'], 0⟩, ⟨.primary, ['b', ' ', ' ', '#', 'c'], 4⟩,
      ⟨.tertiary, ['d'], 17⟩] ∧
    Divides 0 brokenRules brokenItems ∧
    (∀ run k, Item.piece (.quoted run) k ∈ brokenItems → ∀ c ∈ run, isLineBreak c = false) ∧
    Annotated brokenRules ("# it's\na <\n\n  #'< a\n'b  #'\r\n'c', d\n#'") ∧
    ∃ ss, parse none (decodeFile commentSign
        "# it's\na <\n\n  #'< a\n'b  #'\r\n'c', d\n#'") = .ok ss ∧
      ss.map (fun q => (q.relation, q.element)) = [(.primary, ['a']),
        (.primary, ['b', ' ', ' ', '#', 'c']), (.tertiary, ['d'])] := by
  have hparse : parse none brokenRules = .ok [⟨.primary, ['a'], 0⟩,
      ⟨.primary, ['b', ' ', ' ', '#', 'c'], 4⟩, ⟨.tertiary, ['d'], 17⟩] := by
    decide +kernel
  have hruns : ∀ run k, Item.piece (.quoted run) k ∈ brokenItems →
      ∀ c ∈ run, isLineBreak c = false := by
    intro run k hmem
    simp only [brokenItems, List.mem_cons, Item.piece.injEq, Piece.quoted.injEq, reduceCtorEq,
      List.not_mem_nil, false_and, false_or, or_false] at hmem
    rcases hmem with ⟨rfl, -⟩ | ⟨rfl, -⟩ <;> simp [isLineBreak]
  have hfirst : Annotated brokenRules ("# it's\na <\n" ++ "'b  #'\r\n'c', d") :=
    @Annotated.insert brokenRules [] "# it's\n" brokenRules .self (by simp) (by decide +kernel)
      (Or.inr (by simp [isLineBreak]))
  have hmiddle : Annotated brokenRules "# it's\na <\n\n  #'< a\n'b  #'\r\n'c', d" :=
    @Annotated.insert _ _ "\n  #'< a\n" _ hfirst (by simp [isLineBreak]) (by decide +kernel)
      (Or.inr (by simp [isLineBreak]))
  have hlast : Annotated brokenRules "# it's\na <\n\n  #'< a\n'b  #'\r\n'c', d\n#'" :=
    @Annotated.append _ _ "#'" '\n' hmiddle (by decide +kernel) (by decide +kernel)
  exact ⟨hparse, brokenRules_divide, hruns, hlast,
    parse_decodeFile hparse brokenRules_divide hruns hlast⟩

end Collation.Rule
