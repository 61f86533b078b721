import Collation.Proofs.Rule.Grammar

/-! The places at which a scan stands, between two pieces of a text. What it has read when it comes to
such a place does not depend on what follows there, and it goes on until the end of the text or until
nothing can be read any more. -/

namespace Collation.Rule

/-- The scan of a text passes what is before the rest: white space, operators and whole pieces. -/
inductive Passes (rest : Text) : Text → Prop
  | start : Passes rest []
  | space {c : Char} {before : Text} (hc : isSpace c = true) (h : Passes rest before) :
      Passes rest (c :: before)
  | operator {before : Text} (r : Relation) (h : Passes rest before) :
      Passes rest (r.symbol :: before)
  | piece {before : Text} (p : Piece) (hp : p.Fits (before ++ rest)) (h : Passes rest before) :
      Passes rest (p.written ++ before)

/-- A text at whose start nothing can be read, for a cause: there is a reserved character, or a quote
that is never closed. -/
inductive Stuck : RuleError.Cause → Text → Prop
  | unclosed {text : Text} (h : quotedLiteral? text = none) : Stuck .unclosedQuote (quote :: text)
  | reserved {c : Char} {text : Text} (hquote : c ≠ quote) (hsymbol : Relation.ofSymbol? c = none)
      (hspace : ¬ isSpace c = true) (hreserved : isReserved c = true) :
      Stuck (.reserved c) (c :: text)

def Token.position : Token → Nat
  | .operator _ n => n
  | .operand _ n => n

/-- An operand that is being read has started before a place. -/
def Pending.Before (n : Nat) (pending : Pending) : Prop :=
  ∀ start text, pending = some (start, text) → start < n

variable {before rest text : Text} {n m : Nat} {pending : Pending}

theorem Piece.written_ne_nil (p : Piece) : p.written ≠ [] := by
  cases p <;> simp [Piece.written]

theorem Piece.written_length_pos (p : Piece) : 0 < p.written.length :=
  List.length_pos_iff.mpr p.written_ne_nil

/-- What follows a piece may be changed, as long as no quote comes to stand there. -/
theorem Piece.Fits.of_head? {p : Piece} {after : Text} (hp : p.Fits rest)
    (h : after.head? = some quote → rest.head? = some quote) : p.Fits after := by
  cases p with
  | plain c => exact hp
  | apostrophe => trivial
  | quoted run => exact ⟨hp.1, hp.2.1, fun hquote => hp.2.2 (h hquote)⟩

theorem head?_append_of_head? {after : Text}
    (h : after.head? = some quote → rest.head? = some quote)
    (hquote : (before ++ after).head? = some quote) : (before ++ rest).head? = some quote := by
  cases before with
  | nil => exact h hquote
  | cons c before => exact hquote

theorem before_none (n : Nat) : Pending.Before n none := by
  intro start text h
  contradiction

theorem Pending.Before.mono (h : pending.Before n) (hnm : n ≤ m) : pending.Before m :=
  fun start text heq => Nat.lt_of_lt_of_le (h start text heq) hnm

theorem Pending.Before.extend (h : pending.Before n) (hnm : n < m) (piece : Text) :
    (pending.extend n piece).Before m := by
  intro start text heq
  cases pending with
  | none =>
    obtain ⟨rfl, rfl⟩ := Prod.mk.inj (Option.some.inj heq)
    exact hnm
  | some p =>
    obtain ⟨rfl, rfl⟩ := Prod.mk.inj (Option.some.inj heq)
    exact Nat.lt_trans (h p.1 p.2 rfl) hnm

theorem Pending.Before.position_lt (h : pending.Before n) {token : Token}
    (htoken : token ∈ pending.tokens) : token.position < n := by
  cases pending with
  | none => contradiction
  | some p =>
    obtain rfl := List.mem_singleton.mp htoken
    exact h p.1 p.2 rfl

theorem Scan.prepend_prepend (ts us : List Token) (s : Scan) :
    (s.prepend us).prepend ts = s.prepend (ts ++ us) := by
  simp [Scan.prepend]

/-- Once the scan has passed a part of the text, it goes on there with tokens and a started operand
that depend on that part alone, and whose positions are before the place. -/
theorem scanFrom_of_passes (h : Passes rest before) (hm : n + before.length = m)
    (hpending : pending.Before n) :
    ∃ ts held, (∀ token ∈ ts, token.position < m) ∧ Pending.Before m held ∧
      ∀ after : Text, (after.head? = some quote → rest.head? = some quote) →
        scanFrom n pending (before ++ after) = (scanFrom m held after).prepend ts := by
  induction h generalizing n pending with
  | start =>
    obtain rfl : n = m := hm
    exact ⟨[], pending, by simp, hpending, fun _ _ => rfl⟩
  | @space c before hc h ih =>
    rw [List.length_cons] at hm
    obtain ⟨ts, held, hts, hheld, hscan⟩ := ih (by omega) (hpending.mono (Nat.le_succ n))
    refine ⟨ts, held, hts, hheld, fun after hafter => ?_⟩
    rw [List.cons_append, scanFrom_space hc, hscan after hafter]
  | @operator before r h ih =>
    rw [List.length_cons] at hm
    obtain ⟨ts, held, hts, hheld, hscan⟩ := ih (n := n + 1) (by omega) (before_none _)
    refine ⟨pending.tokens ++ [.operator r n] ++ ts, held, ?_, hheld, fun after hafter => ?_⟩
    · have hn : n < m := by omega
      intro token htoken
      rcases List.mem_append.mp htoken with htoken | htoken
      · rcases List.mem_append.mp htoken with htoken | htoken
        · exact Nat.lt_trans (hpending.position_lt htoken) hn
        · obtain rfl := List.mem_singleton.mp htoken
          exact hn
      · exact hts token htoken
    · rw [List.cons_append, scanFrom_operator, hscan after hafter, Scan.prepend_prepend]
  | @piece before p hp h ih =>
    rw [List.length_append] at hm
    have hlength := p.written_length_pos
    obtain ⟨ts, held, hts, hheld, hscan⟩ :=
      ih (n := n + p.written.length) (by omega) (hpending.extend (by omega) p.literal)
    refine ⟨ts, held, hts, hheld, fun after hafter => ?_⟩
    rw [List.append_assoc, scanFrom_piece (hp.of_head? (head?_append_of_head? hafter)),
      hscan after hafter]

theorem scanFrom_of_stuck {cause : RuleError.Cause} (h : Stuck cause text) (n : Nat)
    (pending : Pending) : scanFrom n pending text = ⟨[], some ⟨cause, n⟩⟩ := by
  cases h with
  | unclosed h => exact scanFrom_unclosed h
  | reserved hquote hsymbol hspace hreserved =>
    exact scanFrom_reserved hquote hsymbol hspace hreserved

/-- The scan passes a text up to its end, or up to a place where it is stuck. -/
theorem exists_passes (text : Text) :
    ∃ before rest, text = before ++ rest ∧ Passes rest before ∧
      (rest = [] ∨ ∃ cause, Stuck cause rest) := by
  fun_induction scanFrom 0 none text with
  | case1 n pending => exact ⟨[], [], rfl, .start, Or.inl rfl⟩
  | case2 n pending rest hnone => exact ⟨[], _, rfl, .start, Or.inr ⟨_, .unclosed hnone⟩⟩
  | case3 n pending rest literal after hliteral _ ih =>
    obtain ⟨before, rest', rfl, hpasses, hend⟩ := ih
    obtain ⟨p, hp, -, htext⟩ := piece_of_quotedLiteral? hliteral
    exact ⟨p.written ++ before, rest', by rw [htext, List.append_assoc], .piece p hp hpasses, hend⟩
  | case4 n pending c rest _ r hsymbol ih =>
    obtain ⟨before, rest', rfl, hpasses, hend⟩ := ih
    rw [Relation.ofSymbol?_eq_some hsymbol]
    exact ⟨r.symbol :: before, rest', rfl, .operator r hpasses, hend⟩
  | case5 n pending c rest _ _ hspace ih =>
    obtain ⟨before, rest', rfl, hpasses, hend⟩ := ih
    exact ⟨c :: before, rest', rfl, .space hspace hpasses, hend⟩
  | case6 n pending c rest hquote hsymbol hspace hreserved =>
    exact ⟨[], _, rfl, .start, Or.inr ⟨_, .reserved hquote hsymbol hspace hreserved⟩⟩
  | case7 n pending c rest hquote hsymbol hspace hreserved ih =>
    obtain ⟨before, rest', rfl, hpasses, hend⟩ := ih
    exact ⟨c :: before, rest', rfl,
      .piece (.plain c) (fits_plain hquote hsymbol hspace hreserved) hpasses, hend⟩

/-- A text that is scanned without a fault is passed as a whole. -/
theorem passes_of_fault_eq_none (h : (scan text).fault = none) : Passes [] text := by
  obtain ⟨before, rest, rfl, hpasses, rfl | ⟨cause, hstuck⟩⟩ := exists_passes text
  · rwa [List.append_nil]
  · obtain ⟨ts, held, -, -, hscan⟩ := scanFrom_of_passes hpasses rfl (before_none 0)
    rw [scan, hscan rest id, scanFrom_of_stuck hstuck] at h
    contradiction

end Collation.Rule
