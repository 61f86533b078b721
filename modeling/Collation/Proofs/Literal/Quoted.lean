import Collation.Proofs.Literal.Sign
import Collation.Proofs.Text.Utf8

/-! Text literals. What stands between quotes is read as the text that it spells. -/

namespace Collation.Literal

/-- The text that the body of a literal spells. A backslash stands before a quote or a backslash
that belongs to the text. -/
inductive Spells (mark : Char) : Text → Text → Prop
  | nil : Spells mark [] []
  | plain {c : Char} {body t : Text} (hc : c ∉ [mark, '\\', '\n', '\r', '\x00'])
      (h : Spells mark body t) : Spells mark (c :: body) (c :: t)
  | escaped {c : Char} {body t : Text} (hc : isQuote c = true ∨ c = '\\')
      (h : Spells mark body t) : Spells mark ('\\' :: c :: body) (c :: t)

variable {mark : Char} {body t rest found : Text} {codes : List Nat} {q : Quoted}

theorem Spells.body? (h : Spells mark body t) (hmark : isQuote mark = true) :
    Literal.body? mark false found (body ++ mark :: rest) = some (found.reverse ++ body, rest) := by
  induction h generalizing found with
  | nil => exact body?_run hmark nofun
  | @plain c body t hc h ih =>
    simp only [List.mem_cons, not_or] at hc
    rw [List.cons_append, body?_cons hc.2.1, if_neg hc.1, if_neg hc.2.2.1, ih, List.reverse_cons,
      List.append_assoc]
    rfl
  | @escaped c body t hc h ih =>
    rw [List.cons_append, List.cons_append, Literal.body?, ih]
    simp

theorem unescape_plain {c : Char} (hc : c ≠ '\\') :
    unescape false codes (c :: rest) = unescape false (c.toNat :: codes) rest := by
  rw [unescape]
  all_goals simp [hc]

theorem unescape_escaped {c : Char} (hc : isQuote c = true ∨ c = '\\') :
    unescape false codes ('\\' :: c :: rest) = unescape false (c.toNat :: codes) rest := by
  rw [isQuote_iff, or_assoc] at hc
  have hoctal : octal? c = none := by obtain rfl | rfl | rfl := hc <;> rfl
  have hsimple : simpleEscape? c = some c.toNat := by obtain rfl | rfl | rfl := hc <;> rfl
  rw [unescape, hoctal]
  · dsimp only
    rw [hsimple]
  all_goals
    intros
    simp_all

theorem Spells.unescape (h : Spells mark body t) :
    Literal.unescape false codes body = some (codes.reverse ++ t.map Char.toNat) := by
  induction h generalizing codes with
  | nil =>
    rw [Literal.unescape]
    simp
  | plain hc h ih =>
    rw [unescape_plain (by rintro rfl; simp at hc), ih]
    simp
  | escaped hc h ih =>
    rw [unescape_escaped hc, ih]
    simp

theorem characters?_toNat (t : Text) : characters? (t.map Char.toNat) = some t := by
  unfold characters?
  rw [if_neg, List.map_map]
  · exact congrArg some (List.map_id'' Char.ofNat_toNat t)
  · rw [List.any_map, Bool.not_eq_true, List.any_eq_false]
    intro c _
    have hvalid := Utf8.not_surrogate c
    simp [isSurrogate]
    omega

/-- Two quotes more at the front would make a literal in triple quotes. -/
theorem Spells.not_triple (h : Spells mark body t) (hmark : isQuote mark = true) :
    [mark, mark].isPrefixOf (body ++ [mark]) = false := by
  cases h with
  | nil => simp [List.isPrefixOf]
  | plain hc =>
    simp [List.isPrefixOf]
    rintro rfl
    simp at hc
  | escaped hc =>
    simp [List.isPrefixOf]
    rintro rfl
    contradiction

theorem Spells.quoted? (h : Spells mark body t) (hmark : isQuote mark = true) :
    Literal.quoted? .plain (mark :: (body ++ [mark])) = some (.text (some t), []) := by
  unfold Literal.quoted?
  dsimp only
  rw [h.not_triple hmark, if_neg Bool.false_ne_true, h.body? hmark]
  simp [Marks.quoted?, Marks.plain, h.unescape, characters?_toNat]

theorem Spells.not_mem (h : Spells mark body t) : '\r' ∉ body ∧ '\x00' ∉ body := by
  induction h with
  | nil => simp
  | plain hc h ih =>
    simp_all [eq_comm]
  | escaped hc h ih =>
    constructor <;> simp only [List.mem_cons, not_or]
    · exact ⟨by decide, by rintro rfl; simp [isQuote] at hc, ih.1⟩
    · exact ⟨by decide, by rintro rfl; simp [isQuote] at hc, ih.2⟩

theorem read?_quote (hmark : isQuote mark = true)
    (hquoted : Literal.quoted? .plain (mark :: t) = some (q, rest)) :
    Token.read? (mark :: t) = some (.quoted q, rest) := by
  obtain rfl | rfl := isQuote_iff.mp hmark
  · change (Literal.quoted? .plain ('\'' :: t)).map _ = _
    rw [hquoted]
    rfl
  · change (Literal.quoted? .plain ('"' :: t)).map _ = _
    rw [hquoted]
    rfl

theorem tokensFrom_quote (fuel : Nat) (hmark : isQuote mark = true)
    (hquoted : Literal.quoted? .plain (mark :: t) = some (q, [])) :
    tokensFrom (fuel + 3) [] true [] (mark :: t) = [.quoted q] := by
  have hread := read?_quote hmark hquoted
  obtain rfl | rfl := isQuote_iff.mp hmark
  all_goals simp [tokensFrom, indentation, dropComment, isPad, hread]

theorem Spells.tokens (h : Spells mark body t) (hmark : isQuote mark = true) :
    Literal.tokens (mark :: (body ++ [mark])) = [.quoted (.text (some t))] := by
  obtain ⟨hreturn, hzero⟩ := h.not_mem
  have hne : mark ≠ '\r' ∧ mark ≠ '\x00' := by constructor <;> rintro rfl <;> contradiction
  unfold Literal.tokens
  rw [if_neg (by simpa [hne.2.symm] using hzero),
    Text.unifyNewlines_of_not_mem (by simpa [hne.1.symm] using hreturn)]
  dsimp only
  have hfuel : 2 * (mark :: (body ++ [mark])).length + 2 = 2 * body.length + 3 + 3 := by
    simp
    omega
  rw [hfuel]
  exact tokensFrom_quote _ hmark (h.quoted? hmark)

/-- A text literal is read as the text that it spells. -/
theorem Spells.value (h : Spells mark body t) (hmark : isQuote mark = true) :
    (node (mark :: (body ++ [mark]))).bind Node.value = .ok (.text t) := by
  unfold node
  dsimp only
  rw [h.tokens hmark]
  rfl

end Collation.Literal
