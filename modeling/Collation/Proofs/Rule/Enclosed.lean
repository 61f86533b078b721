import Collation.Proofs.Loop
import Collation.Proofs.Rule.Sign
import Collation.Proofs.Rule.Space

/-! Literals in quotes, read by place. The loop that looks for the end of a quoted run finds the only
place where a literal can end, or there is none, and it goes on no more often than there are
characters. -/

namespace Collation.Rule

/-- The literal `s` stands in quotes from place `i` to place `r`. Two quotes are an apostrophe. Else
the quotes of the literal are doubled, it starts with none, and the one after it ends it. -/
structure Encloses (text : Text) (i r : Nat) (s : Text) : Prop where
  lt : i < r
  le : r ≤ text.length
  ne_nil : s ≠ []
  written : (text.extract i r = [quote, quote] ∧ s = [quote]) ∨
    (text.extract i r = quote :: doubled s ++ [quote] ∧ s.head? ≠ some quote ∧
      text[r]? ≠ some quote)

/-- The place of the first quote from a place on. -/
def quoteFrom? (text : Text) (j : Nat) : Option Nat :=
  ((text.drop j).findIdx? (· = quote)).map (j + ·)

/-- The place from which the next quote is looked for, and the pieces of the literal up to there. -/
structure Search where
  place : Nat
  pieces : List Text

/-- What stands before the next quote is a piece, which may be empty. If that quote is doubled, it is
a piece too, and the search goes on after it. If not, the literal ends with it. -/
def Search.pass (text : Text) (opening : Nat) (s : Search) :
    Except RuleError (List Text × Nat) ⊕ Search :=
  match quoteFrom? text s.place with
  | none => .inl (.error ⟨.unclosedQuote, opening⟩)
  | some stop =>
    let pieces := s.pieces ++ [text.extract s.place stop]
    if text[stop + 1]? = some quote then .inr ⟨stop + 2, pieces ++ [[quote]]⟩
    else .inl (.ok (pieces, stop + 1))

/-- Reads the literal whose quote stands at `i`, and gives its pieces after those before it, with the
place where it ends. The loop goes on at most `n` times. -/
def readEnclosed (text : Text) (i : Nat) (pieces : List Text) (n : Nat) :
    Option (Except RuleError (List Text × Nat)) :=
  if text[i + 1]? = some quote then some (.ok (pieces ++ [[quote]], i + 2))
  else Loop.run (Search.pass text i) n ⟨i + 1, pieces⟩

variable {text piece rest s : Text} {i j r r' stop : Nat}

theorem quote_not_mem_of_quoteFrom? (h : quoteFrom? text j = none) : quote ∉ text.drop j := by
  intro hquote
  have hnone := List.findIdx?_eq_none_iff.mp (Option.map_eq_none_iff.mp h) quote hquote
  simp at hnone

theorem quoteFrom?_eq_some (h : quoteFrom? text j = some stop) :
    j ≤ stop ∧ stop < text.length ∧ quote ∉ text.extract j stop ∧
      text.drop j = text.extract j stop ++ quote :: text.drop (stop + 1) := by
  obtain ⟨k, hfound, rfl⟩ := Option.map_eq_some_iff.mp h
  obtain ⟨hk, hquote, hbefore⟩ := List.findIdx?_eq_some_iff_getElem.mp hfound
  have hlength : (text.drop j).length = text.length - j := List.length_drop
  have hpiece : text.extract j (j + k) = (text.drop j).take k := by
    rw [List.extract_eq_take_drop, Nat.add_sub_cancel_left]
  have hrest : (text.drop j).drop k = quote :: text.drop (j + k + 1) := by
    rw [List.drop_eq_getElem_cons hk, List.drop_drop, of_decide_eq_true hquote]
    rfl
  refine ⟨Nat.le_add_right j k, by omega, ?_, ?_⟩
  · rw [hpiece, List.mem_take_iff_getElem]
    rintro ⟨m, hm, heq⟩
    exact hbefore m (by omega) (decide_eq_true heq)
  · rw [hpiece, ← hrest, List.take_append_drop]

/-- Up to its first quote, a run holds what stands there. -/
theorem quotedRun?_append_of_not_mem (h : quote ∉ piece) (rest : Text) :
    quotedRun? (piece ++ rest) = (quotedRun? rest).map fun (run, after) => (piece ++ run, after) := by
  induction piece with
  | nil =>
    rw [List.nil_append]
    cases quotedRun? rest <;> rfl
  | cons c piece ih =>
    obtain ⟨hc, hpiece⟩ := not_or.mp (mt List.mem_cons.mpr h)
    rw [List.cons_append, quotedRun?, ih hpiece, Option.map_map]
    · rfl
    · exact fun _ heq _ => hc heq.symm
    · exact fun heq => hc heq.symm

theorem quotedRun?_quote (h : rest.head? ≠ some quote) :
    quotedRun? (quote :: rest) = some ([], rest) := by
  have hrun : quotedRun? (doubled [] ++ quote :: rest) = some ([], rest) := quotedRun?_doubled h
  exact hrun

/-- A pass meets no quote any more, or the quote that ends the run, or a doubled quote that the run
holds, and with it goes on further on in the text. -/
theorem Search.pass_cases (text : Text) (i : Nat) (s : Search) :
    (s.pass text i = .inl (.error ⟨.unclosedQuote, i⟩) ∧ quotedRun? (text.drop s.place) = none) ∨
    (∃ piece stop, s.pass text i = .inl (.ok (s.pieces ++ [piece], stop + 1)) ∧
      stop < text.length ∧ quotedRun? (text.drop s.place) = some (piece, text.drop (stop + 1))) ∨
    (∃ piece stop, s.pass text i = .inr ⟨stop + 2, s.pieces ++ [piece, [quote]]⟩ ∧
      s.place ≤ stop ∧ stop < text.length ∧ quotedRun? (text.drop s.place) =
        (quotedRun? (text.drop (stop + 2))).map fun (run, after) =>
          (piece ++ quote :: run, after)) := by
  unfold Search.pass
  cases hstop : quoteFrom? text s.place with
  | none =>
    left
    refine ⟨rfl, ?_⟩
    have hnone := quotedRun?_append_of_not_mem (quote_not_mem_of_quoteFrom? hstop) []
    rwa [List.append_nil] at hnone
  | some stop =>
    obtain ⟨hle, hlt, hpiece, hdrop⟩ := quoteFrom?_eq_some hstop
    have hrun := quotedRun?_append_of_not_mem hpiece (quote :: text.drop (stop + 1))
    rw [← hdrop] at hrun
    have hnext : (text.drop (stop + 1)).head? = text[stop + 1]? := List.head?_drop
    right
    by_cases hdoubled : text[stop + 1]? = some quote
    · right
      refine ⟨text.extract s.place stop, stop, by simp [hdoubled], hle, hlt, ?_⟩
      obtain ⟨rest, hrest⟩ := List.head?_eq_some_iff.mp (hnext.trans hdoubled)
      have hafter : text.drop (stop + 2) = rest := drop_succ_of_drop hrest
      have hquotes : quotedRun? (quote :: quote :: rest) =
          (quotedRun? rest).map fun (run, after) => (quote :: run, after) := by
        rw [show (quote : Char) = '\'' from rfl, quotedRun?]
        rfl
      rw [hrun, hrest, hquotes, hafter, Option.map_map]
      rfl
    · left
      refine ⟨text.extract s.place stop, stop, by simp [hdoubled], hlt, ?_⟩
      rw [hrun, quotedRun?_quote (fun hquote => hdoubled (hnext.symm.trans hquote))]
      exact congrArg (fun run => some (run, text.drop (stop + 1))) (List.append_nil _)

/-- What has been found of the run after the quote at `i`, with the run that is left. -/
def Search.Follows (text : Text) (i : Nat) (pieces : List Text) (s : Search) : Prop :=
  ∃ found, s.pieces = pieces ++ found ∧ quotedRun? (text.drop (i + 1)) =
    (quotedRun? (text.drop s.place)).map fun (run, after) => (found.flatten ++ run, after)

theorem Search.follows_start (text : Text) (i : Nat) (pieces : List Text) :
    Search.Follows text i pieces ⟨i + 1, pieces⟩ := by
  refine ⟨[], (List.append_nil pieces).symm, ?_⟩
  cases quotedRun? (text.drop (i + 1)) <;> rfl

theorem Search.follows_pass {pieces : List Text} {s t : Search} (hs : s.Follows text i pieces)
    (h : s.pass text i = .inr t) :
    t.Follows text i pieces ∧ text.length - t.place < text.length - s.place := by
  obtain ⟨hend, -⟩ | ⟨_, _, hend, -⟩ | ⟨piece, stop, hnext, hle, hlt, hrun⟩ := s.pass_cases text i
  · rw [hend] at h
    contradiction
  · rw [hend] at h
    contradiction
  · rw [hnext] at h
    obtain rfl := Sum.inr.inj h
    obtain ⟨found, hpieces, hfollows⟩ := hs
    refine ⟨⟨found ++ [piece, [quote]], ?_, ?_⟩, ?_⟩
    · rw [hpieces, List.append_assoc]
    · rw [hfollows, hrun, Option.map_map]
      congr 1
      funext p
      simp
    · dsimp only
      omega

/-- The loop ends, and has then found the run that the text has there. -/
theorem exists_run_search (text : Text) (i : Nat) (pieces : List Text) :
    (∃ found r, r ≤ text.length ∧
      quotedRun? (text.drop (i + 1)) = some (found.flatten, text.drop r) ∧
      ∀ n, text.length ≤ n →
        Loop.run (Search.pass text i) n ⟨i + 1, pieces⟩ = some (.ok (pieces ++ found, r))) ∨
    (quotedRun? (text.drop (i + 1)) = none ∧
      ∀ n, text.length ≤ n → Loop.run (Search.pass text i) n ⟨i + 1, pieces⟩ =
        some (.error ⟨.unclosedQuote, i⟩)) := by
  obtain ⟨last, o, ⟨found, hpieces, hfollows⟩, hend, hrun⟩ :=
    Loop.exists_run (fun _ _ => Search.follows_pass) (Search.follows_start text i pieces)
  have hruns : ∀ n, text.length ≤ n →
      Loop.run (Search.pass text i) n ⟨i + 1, pieces⟩ = some o := by
    intro n hn
    apply hrun
    omega
  obtain ⟨herror, hnone⟩ | ⟨piece, stop, hok, hlt, hsome⟩ | ⟨_, _, hnext, -⟩ :=
    last.pass_cases text i
  · right
    obtain rfl := Sum.inl.inj (hend.symm.trans herror)
    refine ⟨?_, hruns⟩
    rw [hfollows, hnone, Option.map_none]
  · left
    obtain rfl := Sum.inl.inj (hend.symm.trans hok)
    refine ⟨found ++ [piece], stop + 1, hlt, ?_, ?_⟩
    · rw [hfollows, hsome, Option.map_some]
      simp
    · rw [hpieces, List.append_assoc] at hruns
      exact hruns
  · rw [hnext] at hend
    contradiction

/-- What is read from a quote on is what the scanner takes in there. -/
theorem exists_readEnclosed (text : Text) (i : Nat) (pieces : List Text) :
    (∃ found r, r ≤ text.length ∧
      quotedLiteral? (text.drop (i + 1)) = some (found.flatten, text.drop r) ∧
      ∀ n, text.length ≤ n → readEnclosed text i pieces n = some (.ok (pieces ++ found, r))) ∨
    (quotedLiteral? (text.drop (i + 1)) = none ∧
      ∀ n, text.length ≤ n →
        readEnclosed text i pieces n = some (.error ⟨.unclosedQuote, i⟩)) := by
  have hnext : (text.drop (i + 1)).head? = text[i + 1]? := List.head?_drop
  unfold readEnclosed
  -- two quotes are an apostrophe before any loop starts, even if a third one follows them
  by_cases hquote : text[i + 1]? = some quote
  · left
    obtain ⟨rest, hrest⟩ := List.head?_eq_some_iff.mp (hnext.trans hquote)
    have hafter : text.drop (i + 2) = rest := drop_succ_of_drop hrest
    have hlt := (List.getElem?_eq_some_iff.mp hquote).1
    refine ⟨[[quote]], i + 2, hlt, ?_, fun _ _ => if_pos hquote⟩
    rw [hrest, hafter]
    rfl
  · have hliteral := quotedLiteral?_of_head? (fun h => hquote (hnext.symm.trans h))
    rw [hliteral]
    simp only [if_neg hquote]
    exact exists_run_search text i pieces

theorem extract_append_drop (h : i ≤ r) : text.extract i r ++ text.drop r = text.drop i := by
  have hdrop : (text.drop i).drop (r - i) = text.drop r := by
    rw [List.drop_drop, Nat.add_sub_cancel' h]
  rw [List.extract_eq_take_drop, ← hdrop, List.take_append_drop]

theorem drop_of_getElem? (hi : text[i]? = some quote) :
    text.drop i = quote :: text.drop (i + 1) := by
  obtain ⟨hlt, hquote⟩ := List.getElem?_eq_some_iff.mp hi
  rw [List.drop_eq_getElem_cons hlt, hquote]

/-- A literal stands in quotes where the scanner takes it in. -/
theorem encloses_iff (hi : text[i]? = some quote) : Encloses text i r s ↔
    r ≤ text.length ∧ quotedLiteral? (text.drop (i + 1)) = some (s, text.drop r) := by
  have hdrop := drop_of_getElem? hi
  constructor
  · intro h
    refine ⟨h.le, ?_⟩
    have hsplit : text.extract i r ++ text.drop r = text.drop i :=
      extract_append_drop (Nat.le_of_lt h.lt)
    rcases h.written with ⟨hwritten, rfl⟩ | ⟨hwritten, hfirst, hend⟩
    · rw [hwritten, hdrop] at hsplit
      have hrest : quote :: text.drop r = text.drop (i + 1) := (List.cons.inj hsplit).2
      rw [← hrest]
      rfl
    · rw [hwritten, hdrop] at hsplit
      have hrest : doubled s ++ quote :: text.drop r = text.drop (i + 1) := by
        simpa using hsplit
      rw [← hrest]
      exact quotedLiteral?_doubled h.ne_nil hfirst (by rwa [List.head?_drop])
  · rintro ⟨hle, hliteral⟩
    obtain ⟨p, hp, rfl, hwritten⟩ := piece_of_quotedLiteral? hliteral
    rw [← hdrop] at hwritten
    have hlength := congrArg List.length hwritten
    have hpos := p.written_length_pos
    rw [List.length_append, List.length_drop, List.length_drop] at hlength
    have hextract : text.extract i r = p.written := by
      rw [List.extract_eq_take_drop, hwritten, List.take_left' (by omega)]
    cases p with
    | plain c =>
      -- a plain character is no quote
      rw [hdrop] at hwritten
      exact absurd (List.cons.inj hwritten).1.symm hp.2.2.1
    | apostrophe =>
      exact ⟨by omega, hle, List.cons_ne_nil quote [], Or.inl ⟨hextract, rfl⟩⟩
    | quoted run =>
      obtain ⟨hrun, hfirst, hend⟩ := hp
      rw [List.head?_drop] at hend
      exact ⟨by omega, hle, hrun, Or.inr ⟨hextract, hfirst, hend⟩⟩

theorem eq_of_drop_eq (hr : r ≤ text.length) (hr' : r' ≤ text.length)
    (h : text.drop r = text.drop r') : r = r' := by
  have hlength := congrArg List.length h
  rw [List.length_drop, List.length_drop] at hlength
  omega

theorem scanFrom_drop (hi : text[i]? = some quote)
    (h : quotedLiteral? (text.drop (i + 1)) = some (s, text.drop r)) (hr : r ≤ text.length)
    (pending : Pending) :
    scanFrom i pending (text.drop i) = scanFrom r (pending.extend i s) (text.drop r) := by
  have hshorter := quotedLiteral?_length h
  rw [List.length_drop, List.length_drop] at hshorter
  have hplace : i + 1 + ((text.drop (i + 1)).length - (text.drop r).length) = r := by
    rw [List.length_drop, List.length_drop]
    omega
  rw [drop_of_getElem? hi, scanFrom_literal h, hplace]

/-- From a quote on, the loop finds a literal within as many passes as there are characters, or finds
that there is none. A literal that it finds is not empty, stands in quotes up to the place where the
scan goes on, and is the only one. If none is found, the quote is a fault at its own place. -/
theorem readEnclosed_finds_literal (hi : text[i]? = some quote) (pieces : List Text) :
    (∃ found r,
      (∀ n, text.length ≤ n → readEnclosed text i pieces n = some (.ok (pieces ++ found, r))) ∧
      Encloses text i r found.flatten ∧
      (∀ r' s, Encloses text i r' s → r' = r ∧ s = found.flatten) ∧
      ∀ pending : Pending, scanFrom i pending (text.drop i) =
        scanFrom r (pending.extend i found.flatten) (text.drop r)) ∨
    ((∀ n, text.length ≤ n →
        readEnclosed text i pieces n = some (.error ⟨.unclosedQuote, i⟩)) ∧
      (∀ r s, ¬ Encloses text i r s) ∧
      ∀ pending, scanFrom i pending (text.drop i) = ⟨[], some ⟨.unclosedQuote, i⟩⟩) := by
  obtain ⟨found, r, hr, hliteral, hread⟩ | ⟨hnone, hread⟩ := exists_readEnclosed text i pieces
  · left
    refine ⟨found, r, hread, (encloses_iff hi).mpr ⟨hr, hliteral⟩, ?_, scanFrom_drop hi hliteral hr⟩
    intro r' s h
    obtain ⟨hr', hliteral'⟩ := (encloses_iff hi).mp h
    have hsame := Option.some.inj (hliteral'.symm.trans hliteral)
    obtain ⟨hs, hdrop⟩ := Prod.mk.inj hsame
    exact ⟨eq_of_drop_eq hr' hr hdrop, hs⟩
  · right
    refine ⟨hread, ?_, ?_⟩
    · intro r s h
      obtain ⟨-, hliteral⟩ := (encloses_iff hi).mp h
      rw [hnone] at hliteral
      contradiction
    · intro pending
      rw [drop_of_getElem? hi]
      exact scanFrom_unclosed hnone

/-- The run of an element that ends with its own quote has an empty piece at its end. -/
theorem readEnclosed_finds_literal_empty_piece :
    let text : Text := "<'a'''"
    text[1]? = some quote ∧ text.length ≤ 6 ∧
    readEnclosed text 1 [] 6 = some (.ok ([['a'], [quote], []], 6)) ∧
    Encloses text 1 6 ['a', quote] := by
  intro text
  have hquote : text[1]? = some quote := rfl
  have hread : readEnclosed text 1 [] 6 = some (.ok ([['a'], [quote], []], 6)) := by decide
  obtain ⟨found, r, hfound, hencloses, -⟩ | ⟨hunclosed, -⟩ := readEnclosed_finds_literal hquote []
  · obtain ⟨rfl, rfl⟩ := Prod.mk.inj (Except.ok.inj (Option.some.inj
      (hread.symm.trans (hfound 6 (by decide)))))
    exact ⟨hquote, by decide, hread, hencloses⟩
  · have hclosed := hread.symm.trans (hunclosed 6 (by decide))
    contradiction

end Collation.Rule
