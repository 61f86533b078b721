import Collation.Proofs.Rule.Grammar

/-! Positions are only carried along. Where the places of a rule text move, so do those in its tokens,
statements and faults, and nothing else changes. -/

namespace Collation

namespace RuleError

/-- A duplicate tells the position of the earlier element. -/
def Cause.move (f : Nat → Nat) : Cause → Cause
  | .duplicate element earlier => .duplicate element (f earlier)
  | cause => cause

def move (f : Nat → Nat) (e : RuleError) : RuleError :=
  ⟨e.cause.move f, f e.position⟩

end RuleError

def Statement.move (f : Nat → Nat) (s : Statement) : Statement :=
  { s with position := f s.position }

namespace Rule

variable {f : Nat → Nat} {n : Nat} {form : Option Form}

def Token.move (f : Nat → Nat) : Token → Token
  | .operator r n => .operator r (f n)
  | .operand text n => .operand text (f n)

def Pending.move (f : Nat → Nat) (pending : Pending) : Pending :=
  pending.map fun (start, text) => (f start, text)

def Scan.move (f : Nat → Nat) (s : Scan) : Scan :=
  ⟨s.tokens.map (Token.move f), s.fault.map (RuleError.move f)⟩

def Progress.move (f : Nat → Nat) (p : Progress) : Progress :=
  ⟨p.statements.map (Statement.move f), p.pending.map fun (r, n) => (r, f n)⟩

/-- The outcome of a parse, with its positions moved. -/
def moveOutcome {α : Type} (f : Nat → Nat) (g : α → α) : Except RuleError α → Except RuleError α
  | .ok a => .ok (g a)
  | .error e => .error (e.move f)

/-- From `n` on, all places move by the same distance. -/
def Translates (f : Nat → Nat) (n : Nat) : Prop :=
  ∀ k, f (n + k) = f n + k

theorem Translates.add (h : Translates f n) (m : Nat) : Translates f (n + m) := by
  intro k
  rw [Nat.add_assoc, h, h m, Nat.add_assoc]

theorem Pending.move_tokens (f : Nat → Nat) (pending : Pending) :
    (pending.move f).tokens = pending.tokens.map (Token.move f) := by
  cases pending <;> rfl

theorem Pending.move_extend (f : Nat → Nat) (pending : Pending) (n : Nat) (piece : Text) :
    (pending.extend n piece).move f = (pending.move f).extend (f n) piece := by
  cases pending <;> rfl

theorem Scan.move_prepend (f : Nat → Nat) (s : Scan) (ts : List Token) :
    (s.prepend ts).move f = (s.move f).prepend (ts.map (Token.move f)) := by
  simp [Scan.move, Scan.prepend]

/-- A text that is scanned at another place gives the same tokens and the same fault there. -/
theorem scanFrom_move (hf : Translates f n) (pending : Pending) (text : Text) :
    scanFrom (f n) (pending.move f) text = (scanFrom n pending text).move f := by
  fun_induction scanFrom n pending text with
  | case1 n pending =>
    rw [scanFrom, Pending.move_tokens]
    rfl
  | case2 n pending rest hnone => exact scanFrom_unclosed hnone
  | case3 n pending rest literal after hliteral _ ih =>
    rw [scanFrom_literal hliteral, ← Pending.move_extend, ← ih ((hf.add 1).add _)]
    rw [(hf.add 1), hf]
  | case4 n pending c rest _ r hsymbol ih =>
    rw [Relation.ofSymbol?_eq_some hsymbol, scanFrom_operator, Scan.move_prepend, ← ih (hf.add 1),
      hf, Pending.move_tokens, List.map_append]
    rfl
  | case5 n pending c rest _ _ hspace ih =>
    rw [scanFrom_space hspace, ← ih (hf.add 1), hf]
  | case6 n pending c rest hquote hsymbol hspace hreserved =>
    exact scanFrom_reserved hquote hsymbol hspace hreserved
  | case7 n pending c rest hquote hsymbol hspace hreserved ih =>
    have hc : (Piece.plain c).Fits rest := fits_plain hquote hsymbol hspace hreserved
    rw [scanFrom_plain hc, ← ih (hf.add 1), Pending.move_extend, hf]

/-- The positions of a part of a text are those that it has by itself, and the length of what is
before. -/
theorem scanFrom_eq_move_scan (n : Nat) (text : Text) :
    scanFrom n none text = (scan text).move (n + ·) := by
  have hf : Translates (n + ·) 0 := fun k => (Nat.add_assoc n 0 k).symm
  exact scanFrom_move hf none text

theorem Pairs.move {ts : List Token} {ss : List Statement} (h : Pairs form ts ss) (f : Nat → Nat) :
    Pairs form (ts.map (Token.move f)) (ss.map (Statement.move f)) := by
  induction h with
  | nil => exact .nil
  | cons r n text start _ ih => exact .cons r (f n) text (f start) ih

/-! The judgement of tokens whose positions are moved. -/

theorem step_move (p : Progress) (token : Token) :
    Progress.step form (p.move f) (token.move f) =
      moveOutcome f (Progress.move f) (Progress.step form p token) := by
  cases token with
  | operator r n =>
    simp only [Progress.step, Progress.move, Token.move, List.isEmpty_map]
    cases p.pending with
    | some waiting => rfl
    | none =>
      simp only [Option.map_none]
      split <;> rfl
  | operand text n =>
    simp only [Progress.step, Progress.move, Token.move, List.find?_map]
    have helement : (fun s : Statement => decide (s.element = normalize form text)) ∘
        Statement.move f = fun s : Statement => decide (s.element = normalize form text) := rfl
    rw [helement]
    cases p.statements.find? fun s : Statement => decide (s.element = normalize form text) with
    | some earlier => rfl
    | none => cases p.pending <;> rfl

theorem steps_move (p : Progress) (ts : List Token) :
    (ts.map (Token.move f)).foldlM (Progress.step form) (p.move f) =
      moveOutcome f (Progress.move f) (ts.foldlM (Progress.step form) p) := by
  induction ts generalizing p with
  | nil => rfl
  | cons token ts ih =>
    rw [List.map_cons, List.foldlM_cons, List.foldlM_cons, step_move]
    cases Progress.step form p token with
    | error e => rfl
    | ok q => exact ih q

theorem finish_move (p : Progress) :
    (p.move f).finish = moveOutcome f (List.map (Statement.move f)) p.finish := by
  unfold Progress.finish Progress.move
  cases p.pending with
  | some waiting => rfl
  | none => exact congrArg Except.ok List.map_reverse.symm

theorem judge_move (s : Scan) :
    judge form (s.move f) = moveOutcome f (List.map (Statement.move f)) (judge form s) := by
  have hsteps : (s.move f).tokens.foldlM (Progress.step form) Progress.start = _ :=
    steps_move Progress.start s.tokens
  unfold judge
  rw [hsteps]
  cases s.tokens.foldlM (Progress.step form) Progress.start with
  | error e => rfl
  | ok p =>
    unfold Scan.move
    cases s.fault with
    | some e => rfl
    | none => exact finish_move p

end Rule

end Collation
