import Collation.Proofs.Literal.Relation
import Collation.Proofs.Text.Lines

/-! Signs of relations in texts. A text with such a sign outside quotes has a token that relates,
and so it is no literal. -/

namespace Collation.Literal

def isSign (c : Char) : Bool :=
  c = '<' || c = ';' || c = '='

/-- A sign that relates stands in a text outside quotes. Before it there are no comments, no
backslashes, and no empty quotes. -/
inductive ShowsSign : Text → Prop
  | sign {c : Char} {rest : Text} (hc : isSign c = true) : ShowsSign (c :: rest)
  | plain {c : Char} {rest : Text} (hquote : isQuote c = false) (hcomment : c ≠ '#')
      (hjoint : c ≠ '\\') (h : ShowsSign rest) : ShowsSign (c :: rest)
  | quoted {mark : Char} {run rest : Text} (hmark : isQuote mark = true) (hne : run ≠ [])
      (hrun : ∀ c ∈ run, c ≠ mark ∧ c ≠ '\\' ∧ c ≠ '\n') (h : ShowsSign rest) :
      ShowsSign (mark :: (run ++ mark :: rest))

/-- A character that is neither a sign nor a quote. -/
def isInner (c : Char) : Bool :=
  !isSign c && !isQuote c

variable {c mark : Char} {t run rest after spelling found : Text} {p : Char → Bool} {m : Marks}
  {q : Quoted} {v : Value} {token : Token} {column column' fuel : Nat} {joint : Option Nat}

theorem isQuote_iff : isQuote c = true ↔ c = '\'' ∨ c = '"' := by
  simp [isQuote]

theorem isInner_of (hc : p c = true) (hp : ['<', ';', '=', '\'', '"'].all (!p ·) = true) :
    isInner c = true := by
  have hnot : c ∉ ['<', ';', '=', '\'', '"'] := by
    intro hmem
    have hnot := List.all_eq_true.mp hp c hmem
    rw [hc] at hnot
    contradiction
  simpa [isInner, isSign, isQuote, and_assoc] using hnot

namespace ShowsSign

theorem ne_nil (h : ShowsSign t) : t ≠ [] := by
  rintro rfl
  contradiction

theorem head_ne (h : ShowsSign (c :: t)) : c ≠ '#' ∧ c ≠ '\\' := by
  cases h with
  | sign hc => constructor <;> rintro rfl <;> contradiction
  | plain hquote hcomment hjoint => exact ⟨hcomment, hjoint⟩
  | quoted hmark => constructor <;> rintro rfl <;> contradiction

theorem tail (h : ShowsSign (c :: t)) (hc : isInner c = true) : ShowsSign t := by
  cases h with
  | sign hsign =>
    rw [isInner, hsign] at hc
    contradiction
  | plain _ _ _ h => exact h
  | quoted hmark =>
    rw [isInner, hmark, Bool.not_true, Bool.and_false] at hc
    contradiction

theorem drop (h : ShowsSign (spelling ++ t)) (hspelling : spelling.all isInner = true) :
    ShowsSign t := by
  induction spelling with
  | nil => exact h
  | cons c spelling ih =>
    obtain ⟨hc, hspelling⟩ := Bool.and_eq_true_iff.mp hspelling
    exact ih (h.tail hc) hspelling

theorem dropWhile (h : ShowsSign t) (hp : ∀ c, p c = true → isInner c = true) :
    ShowsSign (t.dropWhile p) := by
  rw [← List.takeWhile_append_dropWhile (p := p) (l := t)] at h
  refine h.drop ?_
  exact List.all_eq_true.mpr fun c hc => hp c (List.mem_takeWhile_imp hc)

end ShowsSign

/-! Numbers end before the sign. -/

theorem showsSign_splitExponent (h : ShowsSign t) : ShowsSign (splitExponent t).2 := by
  have hdigits {t : Text} (h : ShowsSign t) : ShowsSign (t.dropWhile isDigitOrSeparator) :=
    h.dropWhile fun c hc => isInner_of hc rfl
  unfold splitExponent
  split
  · exact h
  rename_i e rest
  split
  · rename_i he
    have hrest : ShowsSign rest := h.tail (isInner_of (p := fun e => e = 'e' || e = 'E') he rfl)
    split
    · exact h
    · rename_i c digits
      split
      · rename_i hc
        exact hdigits (hrest.tail (isInner_of (p := fun c => c = '-' || c = '+') hc rfl))
      · split
        · exact hdigits hrest
        · exact h
  · exact h

theorem showsSign_splitDecimal (h : ShowsSign t) : ShowsSign (splitDecimal t).2 := by
  have hdigits {t : Text} (h : ShowsSign t) : ShowsSign (t.dropWhile isDigitOrSeparator) :=
    h.dropWhile fun c hc => isInner_of hc rfl
  unfold splitDecimal
  extract_lets whole rest
  have hrest : ShowsSign rest := hdigits h
  clear_value rest
  split
  rename_i point fraction rest' hpoint
  have hrest' : ShowsSign rest' := by
    split at hpoint
    · obtain ⟨-, -, rfl⟩ := hpoint
      exact hdigits (hrest.tail rfl)
    · obtain ⟨-, -, rfl⟩ := hpoint
      exact hrest
  have hlast := showsSign_splitExponent hrest'
  split
  rename_i exponent last hexponent
  rw [hexponent] at hlast
  dsimp only at hlast ⊢
  split
  · exact hlast.tail rfl
  · exact hlast.tail rfl
  · exact hlast

theorem isInner_figure {base : Nat}
    (hc : (c = '_' || (Numeral.digitValue? base c).isSome) = true) : isInner c = true := by
  refine isInner_of (p := fun c => c = '_' || (Numeral.digitValue? base c).isSome) hc ?_
  simp [Numeral.digitValue?]

theorem showsSign_number? (h : ShowsSign t) (hnumber : number? t = some (v, rest)) :
    ShowsSign rest := by
  unfold number? at hnumber
  dsimp only at hnumber
  obtain ⟨hread, -⟩ := Option.filter_eq_some_iff.mp hnumber
  split at hread
  · rename_i base digits hbased
    have hdigits : ShowsSign digits := by
      split at hbased
      · rename_i mark after
        obtain ⟨base', hbase, heq⟩ := Option.map_eq_some_iff.mp hbased
        obtain ⟨-, rfl⟩ := Prod.mk.inj heq
        have hmark : (baseOfMark? mark).isSome = true := Option.isSome_of_eq_some hbase
        exact (h.tail rfl).tail (isInner_of (p := fun c => (baseOfMark? c).isSome) hmark rfl)
      · contradiction
    obtain ⟨⟨n, after⟩, hinteger, heq⟩ := Option.map_eq_some_iff.mp hread
    obtain ⟨-, rfl⟩ := Prod.mk.inj heq
    obtain ⟨n', -, heq⟩ := Option.map_eq_some_iff.mp hinteger
    obtain ⟨-, rfl⟩ := Prod.mk.inj heq
    exact hdigits.dropWhile fun c hc => isInner_figure hc
  · obtain ⟨w, -, heq⟩ := Option.map_eq_some_iff.mp hread
    obtain ⟨-, rfl⟩ := Prod.mk.inj heq
    exact showsSign_splitDecimal h

/-! Quotes are read as a whole. -/

theorem body?_cons (hc : c ≠ '\\') :
    body? mark false found (c :: t) =
      if c = mark then some (found.reverse, t) else if c = '\n' then none
      else body? mark false (c :: found) t := by
  rw [body?]
  · rfl
  · exact fun h _ => hc h
  · exact fun _ _ h _ => hc h

theorem body?_run (hmark : isQuote mark = true)
    (hrun : ∀ c ∈ run, c ≠ mark ∧ c ≠ '\\' ∧ c ≠ '\n') :
    body? mark false found (run ++ mark :: t) = some (found.reverse ++ run, t) := by
  induction run generalizing found with
  | nil =>
    rw [List.nil_append, body?_cons (by rintro rfl; contradiction), if_pos rfl, List.append_nil]
  | cons c run ih =>
    obtain ⟨⟨hquote, hjoint, hline⟩, hrun⟩ := List.forall_mem_cons.mp hrun
    rw [List.cons_append, body?_cons hjoint, if_neg hquote, if_neg hline, ih hrun,
      List.reverse_cons, List.append_assoc]
    rfl

theorem showsSign_quoted? (h : ShowsSign (mark :: t)) (hmark : isQuote mark = true)
    (hquoted : quoted? m (mark :: t) = some (q, rest)) : ShowsSign rest := by
  cases h with
  | sign hsign =>
    obtain rfl | rfl := isQuote_iff.mp hmark <;> contradiction
  | plain hquote =>
    rw [hmark] at hquote
    contradiction
  | @quoted _ run after _ hne hrun h =>
    obtain ⟨c, run, rfl⟩ := List.exists_cons_of_ne_nil hne
    have htriple : [mark, mark].isPrefixOf (c :: run ++ mark :: after) = false := by
      have hc : mark ≠ c := (hrun c List.mem_cons_self).1.symm
      simp [List.isPrefixOf, hc]
    unfold quoted? at hquoted
    dsimp only at hquoted
    rw [htriple, if_neg Bool.false_ne_true, body?_run hmark hrun] at hquoted
    obtain ⟨q', -, heq⟩ := Option.map_eq_some_iff.mp hquoted
    obtain ⟨-, rfl⟩ := Prod.mk.inj heq
    exact h

/-! Tokens. -/

theorem mem_symbols :
    ∀ p ∈ symbols, (Token.symbol p.2).relates = true ∨ p.1.all isInner = true := by
  decide

theorem showsSign_read? (h : ShowsSign t) (hread : Token.read? t = some (token, rest)) :
    token.relates = true ∨ ShowsSign rest := by
  unfold Token.read? at hread
  split at hread
  · contradiction
  rename_i c after
  split at hread
  · obtain ⟨⟨v, after'⟩, hnumber, heq⟩ := Option.map_eq_some_iff.mp hread
    obtain ⟨-, rfl⟩ := Prod.mk.inj heq
    exact .inr (showsSign_number? h hnumber)
  split at hread
  · have hword : ShowsSign ((c :: after).dropWhile isNamePart) :=
      h.dropWhile fun c hc => isInner_of hc rfl
    dsimp only at hread
    split at hread
    · obtain ⟨-, rfl⟩ := Prod.mk.inj (Option.some.inj hread)
      exact .inr hword
    · rename_i m hm
      obtain ⟨⟨q, after'⟩, hquoted, heq⟩ := Option.map_eq_some_iff.mp hread
      obtain ⟨-, rfl⟩ := Prod.mk.inj heq
      split at hm
      · rename_i hquote
        cases hafter : (c :: after).dropWhile isNamePart with
        | nil => exact absurd hafter hword.ne_nil
        | cons mark text =>
          rw [hafter] at hword hquoted hquote
          exact .inr (showsSign_quoted? hword hquote hquoted)
      · contradiction
  split at hread
  · obtain ⟨⟨q, after'⟩, hquoted, heq⟩ := Option.map_eq_some_iff.mp hread
    obtain ⟨-, rfl⟩ := Prod.mk.inj heq
    exact .inr (showsSign_quoted? h ‹_› hquoted)
  split at hread
  · rename_i b opens hbracket
    obtain ⟨-, rfl⟩ := Prod.mk.inj (Option.some.inj hread)
    have hsome : (Bracket.ofChar? c).isSome = true := Option.isSome_of_eq_some hbracket
    exact .inr (h.tail (isInner_of (p := fun c => (Bracket.ofChar? c).isSome) hsome rfl))
  split at hread
  · contradiction
  · obtain ⟨⟨spelling, s⟩, hfind, heq⟩ := Option.map_eq_some_iff.mp hread
    obtain ⟨rfl, rfl⟩ := Prod.mk.inj heq
    obtain hs | hspelling := mem_symbols _ (List.mem_of_find?_eq_some hfind)
    · exact .inl hs
    · have hbegins := List.find?_some hfind
      obtain ⟨after', hafter⟩ := List.isPrefixOf_iff_prefix.mp hbegins
      rw [← hafter] at h ⊢
      rw [List.drop_left]
      exact .inr (h.drop hspelling)

theorem mem_stopped {before : List Token} (h : token ∈ before) : token ∈ stopped before :=
  List.mem_reverse.mpr (List.mem_cons_of_mem _ h)

theorem mem_tokensFrom_of_mem {stack : List Bracket} {atLineStart : Bool} {before : List Token}
    (h : token ∈ before) : token ∈ tokensFrom fuel stack atLineStart before t := by
  fun_induction tokensFrom fuel stack atLineStart before t <;> simp_all [mem_stopped]

theorem showsSign_indentation (h : ShowsSign t)
    (hindent : indentation column joint t = some (column', rest)) : ShowsSign rest := by
  fun_induction indentation column joint t with
  | case1 column joint t ih => exact ih (h.tail rfl) hindent
  | case2 column joint t ih => exact ih (h.tail rfl) hindent
  | case3 column joint t ih => exact ih (h.tail rfl) hindent
  | case4 => contradiction
  | case5 => exact absurd rfl h.head_ne.2
  | case6 => contradiction
  | case7 =>
    obtain ⟨-, rfl⟩ := Prod.mk.inj (Option.some.inj hindent)
    exact h

theorem showsSign_dropComment (h : ShowsSign t) : ShowsSign (dropComment t) := by
  unfold dropComment
  split
  · rename_i hhead
    obtain ⟨rest, rfl⟩ := List.head?_eq_some_iff.mp hhead
    exact absurd rfl h.head_ne.1
  · exact h

theorem showsSign_line (h : ShowsSign t) : ShowsSign (dropComment (t.dropWhile isPad)) :=
  showsSign_dropComment (h.dropWhile fun _ hc => isInner_of hc rfl)

theorem exists_relates_stopped (before : List Token) :
    ∃ token ∈ stopped before, token.relates = true :=
  ⟨.fault, List.mem_reverse.mpr List.mem_cons_self, rfl⟩

/-- What a token leaves of the text shows the sign, unless the token relates. -/
theorem exists_relates_of_read? {stack : List Bracket} {before : List Token}
    (h : ShowsSign t) (hread : Token.read? t = some (token, after))
    (hrest : ShowsSign after →
      ∃ token' ∈ tokensFrom fuel stack false (token :: before) after, token'.relates = true) :
    ∃ token' ∈ tokensFrom fuel stack false (token :: before) after, token'.relates = true := by
  obtain hrelates | hafter := showsSign_read? h hread
  · exact ⟨token, mem_tokensFrom_of_mem List.mem_cons_self, hrelates⟩
  · exact hrest hafter

theorem exists_relates_tokensFrom (h : ShowsSign t) (stack : List Bracket) (atLineStart : Bool)
    (before : List Token) :
    ∃ token ∈ tokensFrom fuel stack atLineStart before t, token.relates = true := by
  fun_induction tokensFrom fuel stack atLineStart before t with
  | case1 | case2 | case5 | case11 | case13 | case14 | case16 | case18 =>
    exact exists_relates_stopped _
  | case3 =>
    rename_i hindent rest' hrest ih
    have hline := showsSign_dropComment (showsSign_indentation h hindent)
    rw [hrest] at hline
    exact ih (hline.tail rfl)
  | case4 =>
    rename_i hindent _ hempty
    have hline := showsSign_dropComment (showsSign_indentation h hindent)
    exact absurd (List.isEmpty_iff.mp (Bool.and_eq_true_iff.mp hempty).1) hline.ne_nil
  | case6 =>
    rename_i hindent _ _ _ hempty
    have hline := showsSign_dropComment (showsSign_indentation h hindent)
    exact absurd (List.isEmpty_iff.mp hempty) hline.ne_nil
  | case7 =>
    rename_i hindent _ _ _ _ ih
    exact ih (showsSign_dropComment (showsSign_indentation h hindent))
  | case8 =>
    rename_i hnil
    exact absurd hnil (showsSign_line h).ne_nil
  | case9 | case10 =>
    rename_i hrest _ ih
    have hline := showsSign_line h
    rw [hrest] at hline
    exact ih (hline.tail rfl)
  | case12 =>
    rename_i hrest _ ih
    have hline := showsSign_line h
    rw [hrest] at hline
    exact absurd rfl hline.head_ne.2
  | case15 | case17 | case19 =>
    rename_i hread ih
    exact exists_relates_of_read? (showsSign_line h) hread ih

/-- A text that shows a sign is no literal. -/
theorem not_literal_of_showsSign (h : ShowsSign t) (hline : '\r' ∉ t) (v : Value) :
    (node t).bind Node.value ≠ .ok v := by
  intro hv
  have htokens := isUnrelated_tokens hv
  unfold tokens at htokens
  split at htokens
  · exact absurd (htokens .fault List.mem_cons_self) nofun
  · rw [Text.unifyNewlines_of_not_mem hline] at htokens
    obtain ⟨token, htoken, hrelates⟩ := exists_relates_tokensFrom h [] true []
    rw [htokens token htoken] at hrelates
    contradiction

end Collation.Literal
