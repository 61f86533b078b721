import Mathlib.Data.List.Chain
import Collation.Proofs.Rule.Place

/-! All that a rule text shows from left to right, with what cannot be read among it. Every text
shows something, each sign stands where it says, and a scan reads the signs up to the first one that
cannot be read. -/

namespace Collation.Rule

/-- An operator, an operand, or what cannot be read, with the position of its first character. -/
inductive Sign where
  | operator (relation : Relation) (position : Nat)
  | operand (text : Text) (position : Nat)
  | unreadable (cause : RuleError.Cause) (position : Nat)
  deriving DecidableEq, Repr

namespace Sign

def position : Sign → Nat
  | operator _ n => n
  | operand _ n => n
  | unreadable _ n => n

def isOperand : Sign → Bool
  | operand _ _ => true
  | _ => false

/-- Signs side by side stand in the order of the text, and are not both operands. -/
def Precedes (a b : Sign) : Prop :=
  a.position < b.position ∧ (a.isOperand = true → b.isOperand = false)

end Sign

/-- What comes after an opening quote that no quote closes: it starts no apostrophe, and each quote
at which a run could end is doubled. -/
def Unclosed (text : Text) : Prop :=
  text.head? ≠ some quote ∧
    ∀ run rest, text = doubled run ++ quote :: rest → rest.head? = some quote

/-- Literal text in front of signs: an operand there takes it in, and starts where it starts. -/
def joinOperand (start : Nat) (literal : Text) : List Sign → List Sign
  | .operand text _ :: signs => .operand (literal ++ text) start :: signs
  | signs => .operand literal start :: signs

/-- The signs of a text at a position. Pieces side by side are one operand. After a reserved
character the text goes on, after an unclosed quote there is nothing more to be read. -/
inductive Shows : Nat → Text → List Sign → Prop
  | done {n : Nat} : Shows n [] []
  | space {n : Nat} {c : Char} {rest : Text} {signs : List Sign} (hc : isSpace c = true)
      (h : Shows (n + 1) rest signs) : Shows n (c :: rest) signs
  | operator {n : Nat} {rest : Text} {signs : List Sign} (r : Relation)
      (h : Shows (n + 1) rest signs) : Shows n (r.symbol :: rest) (.operator r n :: signs)
  | piece {n : Nat} {rest : Text} {signs : List Sign} (p : Piece) (hp : p.Fits rest)
      (h : Shows (n + p.written.length) rest signs) :
      Shows n (p.written ++ rest) (joinOperand n p.literal signs)
  | reserved {n : Nat} {c : Char} {rest : Text} {signs : List Sign} (hc : isReserved c = true)
      (h : Shows (n + 1) rest signs) : Shows n (c :: rest) (.unreadable (.reserved c) n :: signs)
  | unclosed {n : Nat} {rest : Text} (h : Unclosed rest) :
      Shows n (quote :: rest) [.unreadable .unclosedQuote n]

variable {n : Nat} {text whole rest : Text} {signs : List Sign} {c : Char} {pending : Pending}

theorem quotedLiteral?_eq_none_iff : quotedLiteral? text = none ↔ Unclosed text := by
  constructor
  · intro h
    refine ⟨?_, ?_⟩
    · intro hquote
      obtain ⟨rest, rfl⟩ := List.head?_eq_some_iff.mp hquote
      contradiction
    · rintro run rest rfl
      by_contra hend
      unfold quotedLiteral? at h
      split at h
      · contradiction
      · rw [quotedRun?_doubled hend] at h
        contradiction
  · rintro ⟨hquote, hends⟩
    unfold quotedLiteral?
    split
    · exact absurd rfl hquote
    · rcases h : quotedRun? text with _ | ⟨run, rest⟩
      · rfl
      · obtain ⟨rfl, hend⟩ := doubled_of_quotedRun? h
        exact absurd (hends _ _ rfl) hend

theorem isSpace_of_isReserved (hc : isReserved c = true) : ¬ isSpace c = true := by
  simp only [isReserved, isSpace, Bool.and_eq_true, Bool.or_eq_true, decide_eq_true_iff] at hc ⊢
  omega

theorem ofSymbol?_of_isReserved (hc : isReserved c = true) : Relation.ofSymbol? c = none := by
  simp only [isReserved, Bool.and_eq_true, Option.isNone_iff_eq_none] at hc
  exact hc.1.2

theorem ne_quote_of_isReserved (hc : isReserved c = true) : c ≠ quote := by
  simp only [isReserved, Bool.and_eq_true, decide_eq_true_iff] at hc
  exact hc.2

theorem exists_shows (n : Nat) (text : Text) : ∃ signs, Shows n text signs := by
  -- A piece may be longer than one character, so the induction is on the length that is left.
  induction hlength : text.length using Nat.strongRecOn generalizing n text with
  | ind length ih =>
    cases text with
    | nil => exact ⟨[], .done⟩
    | cons c rest =>
      rw [List.length_cons] at hlength
      by_cases hquote : c = quote
      · subst hquote
        rcases hliteral : quotedLiteral? rest with _ | ⟨literal, after⟩
        · exact ⟨_, .unclosed (quotedLiteral?_eq_none_iff.mp hliteral)⟩
        · have hshorter := quotedLiteral?_length hliteral
          obtain ⟨p, hp, -, htext⟩ := piece_of_quotedLiteral? hliteral
          obtain ⟨signs, h⟩ := ih _ (by omega) (n + p.written.length) after rfl
          rw [htext]
          exact ⟨_, .piece p hp h⟩
      · obtain ⟨signs, h⟩ := ih _ (by omega) (n + 1) rest rfl
        cases hsymbol : Relation.ofSymbol? c with
        | some r =>
          rw [Relation.ofSymbol?_eq_some hsymbol]
          exact ⟨_, .operator r h⟩
        | none =>
          by_cases hspace : isSpace c = true
          · exact ⟨_, .space hspace h⟩
          · by_cases hreserved : isReserved c = true
            · exact ⟨_, .reserved hreserved h⟩
            · exact ⟨_, .piece (.plain c) (fits_plain hquote hsymbol hspace hreserved) h⟩

/-! Where signs stand. -/

/-- The text at the position of a sign is what the sign says. An operand starts with a piece. -/
def Sign.Stands (text : Text) : Sign → Prop
  | operator r n => ∃ rest, text.drop n = r.symbol :: rest
  | operand x n => ∃ (p : Piece) (rest : Text), text.drop n = p.written ++ rest ∧ p.Fits rest ∧
      p.literal <+: x
  | unreadable cause n =>
    (∃ c rest, cause = .reserved c ∧ isReserved c = true ∧ text.drop n = c :: rest) ∨
      ∃ rest, cause = .unclosedQuote ∧ Unclosed rest ∧ text.drop n = quote :: rest

theorem mem_joinOperand {start : Nat} {literal : Text} {sign : Sign}
    (h : sign ∈ joinOperand start literal signs) :
    (∃ x, sign = .operand x start ∧ literal <+: x) ∨ sign ∈ signs := by
  unfold joinOperand at h
  split at h
  · rcases List.mem_cons.mp h with rfl | h
    · exact Or.inl ⟨_, rfl, List.prefix_append _ _⟩
    · exact Or.inr (List.mem_cons_of_mem _ h)
  · rcases List.mem_cons.mp h with rfl | h
    · exact Or.inl ⟨_, rfl, List.prefix_rfl⟩
    · exact Or.inr h

theorem drop_succ_of_drop (h : whole.drop n = c :: rest) : whole.drop (n + 1) = rest := by
  rw [← List.tail_drop, h, List.tail_cons]

theorem drop_add_length {before after : Text} (h : whole.drop n = before ++ after) :
    whole.drop (n + before.length) = after := by
  rw [← List.drop_drop, h, List.drop_left]

theorem stands_of_shows (h : Shows n text signs) (htext : whole.drop n = text) {sign : Sign}
    (hsign : sign ∈ signs) : sign.Stands whole := by
  induction h with
  | done => contradiction
  | @space n c rest signs _ _ ih => exact ih (drop_succ_of_drop htext) hsign
  | @operator n rest signs r _ ih =>
    rcases List.mem_cons.mp hsign with rfl | hsign
    · exact ⟨rest, htext⟩
    · exact ih (drop_succ_of_drop htext) hsign
  | @piece n rest signs p hp _ ih =>
    obtain ⟨x, rfl, hliteral⟩ | hsign := mem_joinOperand hsign
    · exact ⟨p, rest, htext, hp, hliteral⟩
    · exact ih (drop_add_length htext) hsign
  | @reserved n c rest signs hc _ ih =>
    rcases List.mem_cons.mp hsign with rfl | hsign
    · exact Or.inl ⟨c, rest, rfl, hc, htext⟩
    · exact ih (drop_succ_of_drop htext) hsign
  | @unclosed n rest h =>
    obtain rfl := List.mem_singleton.mp hsign
    exact Or.inr ⟨rest, rfl, h, htext⟩

theorem Sign.Stands.position_lt {sign : Sign} (h : sign.Stands whole) :
    sign.position < whole.length := by
  have hne : whole.drop sign.position ≠ [] := by
    cases sign with
    | operator r n =>
      obtain ⟨rest, hdrop⟩ := h
      exact hdrop ▸ List.cons_ne_nil _ _
    | operand x n =>
      obtain ⟨p, rest, hdrop, -, -⟩ := h
      exact hdrop ▸ List.append_ne_nil_of_left_ne_nil p.written_ne_nil rest
    | unreadable cause n =>
      obtain ⟨c, rest, -, -, hdrop⟩ | ⟨rest, -, -, hdrop⟩ := h
      · exact hdrop ▸ List.cons_ne_nil _ _
      · exact hdrop ▸ List.cons_ne_nil _ _
  rw [Ne, List.drop_eq_nil_iff] at hne
  omega

theorem getElem?_of_drop (h : whole.drop n = c :: rest) : whole[n]? = some c := by
  rw [← List.head?_drop, h]
  rfl

theorem Sign.Stands.symbol {r : Relation} (h : Sign.Stands whole (.operator r n)) :
    whole[n]? = some r.symbol := by
  obtain ⟨rest, hdrop⟩ := h
  exact getElem?_of_drop hdrop

/-! The order of signs. -/

theorem precedes_joinOperand {start : Nat} {literal : Text}
    (hstart : ∀ sign ∈ signs.head?, start < sign.position) (h : signs.IsChain Sign.Precedes) :
    (joinOperand start literal signs).IsChain Sign.Precedes := by
  cases signs with
  | nil => exact .singleton _
  | cons sign signs =>
    have hlt : start < sign.position := hstart sign rfl
    cases sign with
    | operator r n | unreadable cause n => exact .cons_cons ⟨hlt, fun _ => rfl⟩ h
    | operand x n =>
      obtain ⟨hnext, hsigns⟩ := List.isChain_cons.mp h
      exact .cons hsigns fun next hmem => ⟨hlt.trans (hnext next hmem).1, (hnext next hmem).2⟩

theorem precedes_of_shows (h : Shows n text signs) :
    (∀ sign ∈ signs.head?, n ≤ sign.position) ∧ signs.IsChain Sign.Precedes := by
  induction h with
  | done => exact ⟨by simp, .nil⟩
  | space _ _ ih => exact ⟨fun sign hsign => Nat.le_of_succ_le (ih.1 sign hsign), ih.2⟩
  | operator r _ ih =>
    refine ⟨by simp [Sign.position], .cons ih.2 fun sign hsign => ⟨ih.1 sign hsign, ?_⟩⟩
    exact fun hoperand => Bool.noConfusion hoperand
  | @piece n rest signs p _ _ ih =>
    have hlength := p.written_length_pos
    refine ⟨?_, precedes_joinOperand (fun sign hsign => ?_) ih.2⟩
    · unfold joinOperand
      split <;> simp [Sign.position]
    · have hle := ih.1 sign hsign
      omega
  | reserved _ _ ih =>
    refine ⟨by simp [Sign.position], .cons ih.2 fun sign hsign => ⟨ih.1 sign hsign, ?_⟩⟩
    exact fun hoperand => Bool.noConfusion hoperand
  | unclosed _ => exact ⟨by simp [Sign.position], .singleton _⟩

theorem increasing_of_shows (h : Shows n text signs) :
    (signs.map Sign.position).Pairwise (· < ·) := by
  rw [← List.isChain_iff_pairwise, List.isChain_map]
  exact (precedes_of_shows h).2.imp fun _ _ hprecedes => hprecedes.1

/-! What a scan makes of signs. -/

/-- An operand is judged at the operator after it, or at the end. -/
def judges : List Sign → Bool
  | [] => true
  | .operator _ _ :: _ => true
  | _ => false

/-- Signs are read up to the first one that cannot be read, and an operand that is not judged is
dropped. -/
def Scan.ofSigns : List Sign → Scan
  | [] => ⟨[], none⟩
  | .operator r n :: signs => (ofSigns signs).prepend [.operator r n]
  | .operand x n :: signs =>
    if judges signs then (ofSigns signs).prepend [.operand x n] else ofSigns signs
  | .unreadable cause n :: _ => ⟨[], some ⟨cause, n⟩⟩

/-- The signs of a text that comes after the beginning of an operand. -/
def Pending.joinSigns (pending : Pending) (signs : List Sign) : List Sign :=
  match pending with
  | none => signs
  | some (start, text) => joinOperand start text signs

theorem joinOperand_joinOperand (m n : Nat) (a b : Text) (signs : List Sign) :
    joinOperand m a (joinOperand n b signs) = joinOperand m (a ++ b) signs := by
  cases signs with
  | nil => rfl
  | cons sign signs =>
    cases sign with
    | operator r k | unreadable cause k => rfl
    | operand text k => simp [joinOperand]

theorem Pending.joinSigns_extend (pending : Pending) (n : Nat) (literal : Text)
    (signs : List Sign) :
    (pending.extend n literal).joinSigns signs =
      pending.joinSigns (joinOperand n literal signs) := by
  cases pending with
  | none => rfl
  | some p => exact (joinOperand_joinOperand p.1 n p.2 literal signs).symm

theorem ofSigns_joinSigns_operator (pending : Pending) (r : Relation) (n : Nat)
    (signs : List Sign) :
    Scan.ofSigns (pending.joinSigns (.operator r n :: signs)) =
      (Scan.ofSigns signs).prepend (pending.tokens ++ [.operator r n]) := by
  cases pending <;> rfl

theorem ofSigns_joinSigns_unreadable (pending : Pending) (cause : RuleError.Cause) (n : Nat)
    (signs : List Sign) :
    Scan.ofSigns (pending.joinSigns (.unreadable cause n :: signs)) = ⟨[], some ⟨cause, n⟩⟩ := by
  cases pending <;> rfl

theorem ofSigns_joinSigns_nil (pending : Pending) :
    Scan.ofSigns (pending.joinSigns []) = ⟨pending.tokens, none⟩ := by
  cases pending <;> rfl

/-- A text is scanned as its signs are read. -/
theorem scanFrom_of_shows (h : Shows n text signs) :
    scanFrom n pending text = Scan.ofSigns (pending.joinSigns signs) := by
  induction h generalizing pending with
  | done => rw [scanFrom, ofSigns_joinSigns_nil]
  | space hc _ ih => rw [scanFrom_space hc, ih]
  | operator r _ ih =>
    rw [scanFrom_operator, ih, ofSigns_joinSigns_operator]
    rfl
  | piece p hp _ ih => rw [scanFrom_piece hp, ih, Pending.joinSigns_extend]
  | reserved hc _ _ =>
    rw [scanFrom_reserved (ne_quote_of_isReserved hc) (ofSymbol?_of_isReserved hc)
      (isSpace_of_isReserved hc) hc, ofSigns_joinSigns_unreadable]
  | unclosed h =>
    rw [scanFrom_unclosed (quotedLiteral?_eq_none_iff.mpr h), ofSigns_joinSigns_unreadable]

theorem scan_of_shows (h : Shows 0 text signs) : scan text = Scan.ofSigns signs :=
  scanFrom_of_shows h

end Collation.Rule
