import Collation.Proofs.Rule.Parser

/-! The grammar of rule texts, which says nothing of how a text is scanned: pieces of literal text
among operators and white space, operands made of pieces, and statements made of operators and
operands. The scanner finds the division of a text, and fails where there is none. -/

namespace Collation

theorem Relation.ofSymbol?_eq_some {c : Char} {r : Relation} (h : ofSymbol? c = some r) :
    c = r.symbol := by
  have hfound := List.find?_some h
  exact (of_decide_eq_true hfound).symm

theorem Relation.ofSymbol?_eq_none {c : Char} :
    ofSymbol? c = none ↔ ∀ r : Relation, c ≠ r.symbol := by
  constructor
  · intro h r hc
    rw [hc, ofSymbol?_symbol] at h
    contradiction
  · intro h
    cases hr : ofSymbol? c with
    | none => rfl
    | some r => exact absurd (ofSymbol?_eq_some hr) (h r)

theorem Relation.symbol_ne_quote (r : Relation) : r.symbol ≠ Rule.quote := by
  cases r <;> decide

theorem isSpace_symbol (r : Relation) : isSpace r.symbol = false := by
  cases r <;> rfl

namespace Rule

/-- A text with each of its quotes written twice. -/
def doubled (t : Text) : Text :=
  t.flatMap fun c => if c = quote then [quote, quote] else [c]

/-- A piece of literal text: a character that stands for itself, an apostrophe, or a run in
quotes. -/
inductive Piece where
  | plain (c : Char)
  | apostrophe
  | quoted (run : Text)
  deriving DecidableEq, Repr

namespace Piece

/-- The text that a piece stands for. -/
def literal : Piece → Text
  | plain c => [c]
  | apostrophe => [quote]
  | quoted run => run

def written : Piece → Text
  | plain c => [c]
  | apostrophe => [quote, quote]
  | quoted run => quote :: doubled run ++ [quote]

/-- Whether a piece can stand before `rest`. Two quotes at its start are an apostrophe, so that a
run is not empty and starts with no quote, and a run ends only at a quote that is not doubled. -/
def Fits (rest : Text) : Piece → Prop
  | plain c => isSpace c = false ∧ (∀ r : Relation, c ≠ r.symbol) ∧ c ≠ quote ∧ isReserved c = false
  | apostrophe => True
  | quoted run => run ≠ [] ∧ run.head? ≠ some quote ∧ rest.head? ≠ some quote

end Piece

/-- An operator or a piece, with the position of its first character. -/
inductive Item where
  | operator (relation : Relation) (position : Nat)
  | piece (p : Piece) (position : Nat)
  deriving DecidableEq, Repr

/-- The text at a position divides, from left to right, into white space and items. -/
inductive Divides : Nat → Text → List Item → Prop
  | done {n : Nat} : Divides n [] []
  | space {n : Nat} {c : Char} {rest : Text} {items : List Item} (hc : isSpace c = true)
      (h : Divides (n + 1) rest items) : Divides n (c :: rest) items
  | operator {n : Nat} {rest : Text} {items : List Item} (r : Relation)
      (h : Divides (n + 1) rest items) : Divides n (r.symbol :: rest) (.operator r n :: items)
  | piece {n : Nat} {rest : Text} {items : List Item} (p : Piece) (hp : p.Fits rest)
      (h : Divides (n + p.written.length) rest items) :
      Divides n (p.written ++ rest) (.piece p n :: items)

/-- Literal text in front of tokens: an operand there takes it in, and starts where it starts. -/
def joinLiteral (start : Nat) (literal : Text) : List Token → List Token
  | .operand text _ :: ts => .operand (literal ++ text) start :: ts
  | ts => .operand literal start :: ts

/-- Operators and operands. Pieces side by side are one operand. -/
def tokens : List Item → List Token
  | [] => []
  | .operator r n :: items => .operator r n :: tokens items
  | .piece p n :: items => joinLiteral n p.literal (tokens items)

/-- Operators, each with its operand, as statements. -/
inductive Pairs (form : Option Form) : List Token → List Statement → Prop
  | nil : Pairs form [] []
  | cons {ts : List Token} {ss : List Statement} (r : Relation) (n : Nat) (text : Text)
      (start : Nat) (h : Pairs form ts ss) :
      Pairs form (.operator r n :: .operand text start :: ts)
        (⟨r, normalize form text, start⟩ :: ss)

/-- A rule starts with an operand, before which an operator for a primary group may be left out. -/
inductive Reads (form : Option Form) : List Token → List Statement → Prop
  | led {ts : List Token} {ss : List Statement} {n : Nat}
      (h : Pairs form (.operator .primary n :: ts) ss) : Reads form (.operator .primary n :: ts) ss
  | bare {ts : List Token} {ss : List Statement} (text : Text) (start : Nat)
      (h : Pairs form ts ss) :
      Reads form (.operand text start :: ts) (⟨.primary, normalize form text, start⟩ :: ss)

variable {n : Nat} {pending : Pending} {run literal rest after text : Text} {items : List Item}
  {c : Char}

@[simp] theorem doubled_quote (t : Text) :
    doubled (quote :: t) = quote :: quote :: doubled t := rfl

theorem doubled_cons_of_ne (hc : c ≠ quote) (t : Text) : doubled (c :: t) = c :: doubled t := by
  rw [doubled, List.flatMap_cons, if_neg hc]
  rfl

theorem quotedRun?_doubled (hend : rest.head? ≠ some quote) :
    quotedRun? (doubled run ++ quote :: rest) = some (run, rest) := by
  induction run with
  | nil =>
    change quotedRun? ('\'' :: rest) = _
    rw [quotedRun?]
    rintro after rfl
    exact hend rfl
  | cons c run ih =>
    by_cases hc : c = quote
    · subst hc
      change quotedRun? ('\'' :: '\'' :: (doubled run ++ quote :: rest)) = _
      rw [quotedRun?, ih]
      rfl
    · rw [doubled_cons_of_ne hc, List.cons_append, quotedRun?, ih]
      · rfl
      · exact fun _ h _ => hc h
      · exact fun h => hc h

theorem doubled_of_quotedRun? (h : quotedRun? text = some (run, rest)) :
    text = doubled run ++ quote :: rest ∧ rest.head? ≠ some quote := by
  fun_induction quotedRun? text generalizing run with
  | case1 => contradiction
  | case2 after ih =>
    obtain ⟨⟨run', rest'⟩, hafter, heq⟩ := Option.map_eq_some_iff.mp h
    obtain ⟨rfl, rfl⟩ := Prod.mk.inj heq
    obtain ⟨rfl, hend⟩ := ih hafter
    exact ⟨rfl, hend⟩
  | case3 after hsingle =>
    obtain ⟨rfl, rfl⟩ := Prod.mk.inj (Option.some.inj h)
    refine ⟨rfl, ?_⟩
    intro hquote
    obtain ⟨after', rfl⟩ := List.head?_eq_some_iff.mp hquote
    exact hsingle after' rfl
  | case4 c after _ hc ih =>
    obtain ⟨⟨run', rest'⟩, hafter, heq⟩ := Option.map_eq_some_iff.mp h
    obtain ⟨rfl, rfl⟩ := Prod.mk.inj heq
    obtain ⟨rfl, hend⟩ := ih hafter
    exact ⟨by rw [doubled_cons_of_ne hc, List.cons_append], hend⟩

/-- What follows an opening quote is the rest of an apostrophe or of a quoted run. -/
theorem piece_of_quotedLiteral? (h : quotedLiteral? text = some (literal, rest)) :
    ∃ p : Piece, p.Fits rest ∧ p.literal = literal ∧ quote :: text = p.written ++ rest := by
  unfold quotedLiteral? at h
  split at h
  · obtain ⟨rfl, rfl⟩ := Prod.mk.inj (Option.some.inj h)
    exact ⟨.apostrophe, trivial, rfl, rfl⟩
  · next hsingle =>
    obtain ⟨rfl, hend⟩ := doubled_of_quotedRun? h
    refine ⟨.quoted literal, ⟨?_, ?_, hend⟩, rfl, ?_⟩
    · rintro rfl
      exact hsingle rest rfl
    · intro hquote
      obtain ⟨run, rfl⟩ := List.head?_eq_some_iff.mp hquote
      exact hsingle _ rfl
    · simp [Piece.written]

theorem quotedLiteral?_doubled (hrun : run ≠ []) (hfirst : run.head? ≠ some quote)
    (hend : rest.head? ≠ some quote) :
    quotedLiteral? (doubled run ++ quote :: rest) = some (run, rest) := by
  have hsingle : ∀ after, doubled run ++ quote :: rest = '\'' :: after → False := by
    intro after h
    cases run with
    | nil => exact hrun rfl
    | cons c run =>
      have hc : c ≠ quote := fun hc => hfirst (congrArg some hc)
      rw [doubled_cons_of_ne hc, List.cons_append] at h
      exact hc (List.cons.inj h).1
  rw [quotedLiteral?]
  · exact quotedRun?_doubled hend
  · exact hsingle

/-! Equations of the scanner, one for each way to divide a text and one for each fault. -/

theorem scanFrom_space (hc : isSpace c = true) :
    scanFrom n pending (c :: rest) = scanFrom (n + 1) pending rest := by
  have hquote : c ≠ quote := by
    rintro rfl
    contradiction
  have hsymbol : Relation.ofSymbol? c = none := by
    refine Relation.ofSymbol?_eq_none.mpr ?_
    rintro r rfl
    rw [isSpace_symbol] at hc
    contradiction
  rw [scanFrom, if_neg hquote, hsymbol]
  exact if_pos hc

theorem scanFrom_operator (r : Relation) :
    scanFrom n pending (r.symbol :: rest) =
      (scanFrom (n + 1) none rest).prepend (pending.tokens ++ [.operator r n]) := by
  rw [scanFrom, if_neg r.symbol_ne_quote, Relation.ofSymbol?_symbol]

theorem scanFrom_literal (h : quotedLiteral? text = some (literal, rest)) :
    scanFrom n pending (quote :: text) =
      scanFrom (n + 1 + (text.length - rest.length)) (pending.extend n literal) rest := by
  rw [scanFrom, if_pos rfl]
  split
  · next hnone =>
    rw [h] at hnone
    contradiction
  · next literal' rest' hsome =>
    rw [h] at hsome
    obtain ⟨rfl, rfl⟩ := Prod.mk.inj (Option.some.inj hsome)
    rfl

theorem scanFrom_piece {p : Piece} (hp : p.Fits rest) :
    scanFrom n pending (p.written ++ rest) =
      scanFrom (n + p.written.length) (pending.extend n p.literal) rest := by
  cases p with
  | plain c =>
    obtain ⟨hspace, hsymbol, hquote, hreserved⟩ := hp
    change scanFrom n pending (c :: rest) = _
    rw [scanFrom, if_neg hquote, Relation.ofSymbol?_eq_none.mpr hsymbol]
    simp only [hspace, hreserved, Bool.false_eq_true, if_false]
    rfl
  | apostrophe =>
    have hliteral : quotedLiteral? (quote :: rest) = some ([quote], rest) := rfl
    change scanFrom n pending (quote :: quote :: rest) = _
    rw [scanFrom_literal hliteral]
    congr 1
    simp [Piece.written]
  | quoted run =>
    obtain ⟨hrun, hfirst, hend⟩ := hp
    have hliteral := quotedLiteral?_doubled hrun hfirst hend
    have htext : Piece.written (.quoted run) ++ rest = quote :: (doubled run ++ quote :: rest) := by
      simp [Piece.written]
    rw [htext, scanFrom_literal hliteral]
    congr 1
    simp [Piece.written]
    omega

theorem fits_plain (hquote : c ≠ quote) (hsymbol : Relation.ofSymbol? c = none)
    (hspace : ¬ isSpace c = true) (hreserved : ¬ isReserved c = true) :
    (Piece.plain c).Fits rest :=
  ⟨Bool.eq_false_iff.mpr hspace, Relation.ofSymbol?_eq_none.mp hsymbol, hquote,
    Bool.eq_false_iff.mpr hreserved⟩

theorem scanFrom_plain (hc : (Piece.plain c).Fits rest) :
    scanFrom n pending (c :: rest) = scanFrom (n + 1) (pending.extend n [c]) rest :=
  scanFrom_piece hc

theorem scanFrom_unclosed (h : quotedLiteral? text = none) :
    scanFrom n pending (quote :: text) = ⟨[], some ⟨.unclosedQuote, n⟩⟩ := by
  rw [scanFrom, if_pos rfl]
  split
  · rfl
  · next literal rest hsome =>
    rw [h] at hsome
    contradiction

theorem scanFrom_reserved (hquote : c ≠ quote) (hsymbol : Relation.ofSymbol? c = none)
    (hspace : ¬ isSpace c = true) (hreserved : isReserved c = true) :
    scanFrom n pending (c :: rest) = ⟨[], some ⟨.reserved c, n⟩⟩ := by
  rw [scanFrom, if_neg hquote, hsymbol]
  simp only [hspace, hreserved, Bool.false_eq_true, if_false, if_true]

/-- A text that is scanned without a fault divides into items. -/
theorem divides_of_scanFrom (h : (scanFrom n pending text).fault = none) :
    ∃ items, Divides n text items := by
  fun_induction scanFrom n pending text with
  | case1 n pending => exact ⟨[], .done⟩
  | case2 n pending rest hnone => contradiction
  | case3 n pending rest literal after hliteral _ ih =>
    obtain ⟨items, hitems⟩ := ih h
    obtain ⟨p, hp, -, htext⟩ := piece_of_quotedLiteral? hliteral
    -- The scanner counts what it has read by the text that is left.
    have hlength := congrArg List.length htext
    simp only [List.length_cons, List.length_append] at hlength
    have hafter : n + 1 + (rest.length - after.length) = n + p.written.length := by omega
    rw [hafter] at hitems
    rw [htext]
    exact ⟨_, .piece p hp hitems⟩
  | case4 n pending c rest _ r hsymbol ih =>
    obtain ⟨items, hitems⟩ := ih h
    rw [Relation.ofSymbol?_eq_some hsymbol]
    exact ⟨_, .operator r hitems⟩
  | case5 n pending c rest _ _ hspace ih =>
    obtain ⟨items, hitems⟩ := ih h
    exact ⟨items, .space hspace hitems⟩
  | case6 => contradiction
  | case7 n pending c rest hquote hsymbol hspace hreserved ih =>
    obtain ⟨items, hitems⟩ := ih h
    exact ⟨_, .piece (.plain c) (fits_plain hquote hsymbol hspace hreserved) hitems⟩

/-- The tokens of a text that comes after the beginning of an operand. -/
def Pending.join (pending : Pending) (ts : List Token) : List Token :=
  match pending with
  | none => ts
  | some (start, text) => joinLiteral start text ts

theorem joinLiteral_joinLiteral (m n : Nat) (a b : Text) (ts : List Token) :
    joinLiteral m a (joinLiteral n b ts) = joinLiteral m (a ++ b) ts := by
  cases ts with
  | nil => rfl
  | cons token ts =>
    cases token with
    | operator r k => rfl
    | operand text k => simp [joinLiteral]

theorem Pending.join_extend (pending : Pending) (n : Nat) (literal : Text) (ts : List Token) :
    (pending.extend n literal).join ts = pending.join (joinLiteral n literal ts) := by
  cases pending with
  | none => rfl
  | some p => exact (joinLiteral_joinLiteral p.1 n p.2 literal ts).symm

theorem Pending.join_operator (pending : Pending) (r : Relation) (n : Nat) (ts : List Token) :
    pending.join (.operator r n :: ts) = pending.tokens ++ .operator r n :: ts := by
  cases pending <;> rfl

theorem Pending.join_nil (pending : Pending) : pending.join [] = pending.tokens := by
  cases pending <;> rfl

/-- A text that divides is scanned into the tokens of its items. -/
theorem scanFrom_of_divides (h : Divides n text items) :
    scanFrom n pending text = ⟨pending.join (tokens items), none⟩ := by
  induction h generalizing pending with
  | done => rw [scanFrom, tokens, Pending.join_nil]
  | space hc _ ih => rw [scanFrom_space hc, ih]
  | operator r _ ih =>
    rw [scanFrom_operator, ih, tokens, Pending.join_operator]
    simp [Scan.prepend, Pending.join]
  | piece p hp _ ih => rw [scanFrom_piece hp, ih, tokens, Pending.join_extend]

theorem scan_of_divides (h : Divides 0 text items) : scan text = ⟨tokens items, none⟩ :=
  scanFrom_of_divides h

theorem items_eq_nil_iff (h : Divides n text items) :
    items = [] ↔ Text.isBlank text = true := by
  induction h with
  | done => simp [Text.isBlank]
  | space hc _ ih => simpa [Text.isBlank, hc] using ih
  | operator r _ _ => simp [Text.isBlank, isSpace_symbol]
  | piece p hp _ _ =>
    have hquote : isSpace quote = false := rfl
    cases p with
    | plain c => simp [Text.isBlank, Piece.written, hp.1]
    | apostrophe | quoted run => simp [Text.isBlank, Piece.written, hquote]

end Rule

end Collation
