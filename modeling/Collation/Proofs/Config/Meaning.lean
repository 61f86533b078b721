import Collation.Config.Values
import Collation.Proofs.Literal.Quoted
import Collation.Proofs.Rule.Grammar

/-! What rules of a configuration file stand for. Rules with signs of relations stand for
themselves, and a text in quotes for what it spells. -/

namespace Collation

namespace Rule

/-- A piece that ends at the same quotes when it is read as a literal. -/
def Piece.IsSimple : Piece → Prop
  | plain _ => True
  | apostrophe => False
  | quoted run => ∀ c ∈ run, c ≠ quote ∧ c ≠ '\\'

/-- Rules on one line that relate elements, not only by commas, with simple pieces. -/
structure Relates (rules : Text) : Prop where
  line : ∀ c ∈ rules, c ≠ '\n' ∧ c ≠ '\r'
  related : ∃ items, Divides 0 rules items ∧ (∀ p n, .piece p n ∈ items → p.IsSimple) ∧
    ∃ r n, r ≠ .tertiary ∧ .operator r n ∈ items

variable {rules : Text} {items : List Item} {p : Piece} {r : Relation} {n k : Nat}

theorem doubled_of_not_mem {t : Text} (h : quote ∉ t) : doubled t = t := by
  induction t with
  | nil => rfl
  | cons c t ih =>
    rw [doubled_cons_of_ne (fun hc => h (hc ▸ List.mem_cons_self)),
      ih fun ht => h (List.mem_cons_of_mem c ht)]

theorem showsSign_of_divides (h : Divides k rules items) (hline : '\n' ∉ rules)
    (hsimple : ∀ p n, .piece p n ∈ items → p.IsSimple) (hr : r ≠ .tertiary)
    (hmem : .operator r n ∈ items) : Literal.ShowsSign rules := by
  induction h with
  | done => contradiction
  | @space _ c _ _ hc _ ih =>
    refine .plain ?_ ?_ ?_ (ih (List.not_mem_of_not_mem_cons hline) hsimple hmem)
    · refine Bool.eq_false_iff.mpr fun hquote => ?_
      obtain rfl | rfl := Literal.isQuote_iff.mp hquote <;> contradiction
    · rintro rfl
      contradiction
    · rintro rfl
      contradiction
  | @operator _ rest items r' h ih =>
    have hplain (hr' : r' = .tertiary) : Literal.ShowsSign rest := by
      obtain hhead | hmem := List.mem_cons.mp hmem
      · injection hhead with hr''
        exact absurd (hr''.trans hr') hr
      · exact ih (List.not_mem_of_not_mem_cons hline)
          (fun p n hp => hsimple p n (List.mem_cons_of_mem _ hp)) hmem
    cases r' with
    | tertiary => exact .plain rfl (by decide) (by decide) (hplain rfl)
    | primary | secondary | same => exact .sign rfl
  | @piece _ rest items p hp h ih =>
    have hrest := ih (fun h => hline (List.mem_append_right _ h))
      (fun p n hp => hsimple p n (List.mem_cons_of_mem _ hp))
      ((List.mem_cons.mp hmem).resolve_left nofun)
    have hsimple := hsimple p _ List.mem_cons_self
    cases p with
    | plain c =>
      obtain ⟨-, -, hquote, hreserved⟩ := hp
      refine .plain ?_ ?_ ?_ hrest
      · refine Bool.eq_false_iff.mpr fun hc => ?_
        obtain hc | rfl := Literal.isQuote_iff.mp hc
        · exact hquote hc
        · exact absurd hreserved (by decide)
      · rintro rfl
        exact absurd hreserved (by decide)
      · rintro rfl
        exact absurd hreserved (by decide)
    | apostrophe => contradiction
    | quoted run =>
      have hrun : quote ∉ run := fun h => (hsimple quote h).1 rfl
      rw [Piece.written, doubled_of_not_mem hrun] at hline ⊢
      rw [List.cons_append, List.cons_append, List.append_assoc]
      refine .quoted rfl hp.1 (fun c hc => ⟨(hsimple c hc).1, (hsimple c hc).2, ?_⟩) hrest
      rintro rfl
      simp [hc] at hline

end Rule

namespace Config

variable {rules text body : Text} {mark : Char} {v : Value}

/-- The literal that a setting is read as, if it is one. -/
def literal? (setting : Text) : Option Value :=
  ((Literal.node (setting.dropWhile fun c => c = ' ' || c = '\t')).bind
    Literal.Node.value).toOption

/-- The text that rules of a configuration file stand for: themselves if they relate elements, and
what they spell if they stand in quotes. Any others go by the literal that they are read as. -/
inductive StandsFor : Text → Text → Prop
  | related {rules : Text} (h : Rule.Relates rules) : StandsFor rules rules
  | quoted {mark : Char} {body text : Text} (hmark : Literal.isQuote mark = true)
      (h : Literal.Spells mark body text) : StandsFor (mark :: (body ++ [mark])) text
  | read {rules text : Text} (h : literal? rules = some (.text text)) : StandsFor rules text
  | unread {rules : Text} (h : literal? rules = none) : StandsFor rules rules

theorem literal?_of_relates (h : Rule.Relates rules) : literal? rules = none := by
  obtain ⟨hline, items, hitems, hsimple, r, n, hr, hmem⟩ := h
  have hshows := Rule.showsSign_of_divides hitems (fun h => (hline _ h).1 rfl) hsimple hr hmem
  have hreturn : '\r' ∉ rules := fun h => (hline _ h).2 rfl
  have hvalue := Literal.not_literal_of_showsSign
    (hshows.dropWhile fun c hc => Literal.isInner_of (p := fun c => c = ' ' || c = '\t') hc rfl)
    fun h => hreturn ((List.dropWhile_sublist _).subset h)
  unfold literal?
  cases hread : (Literal.node _).bind Literal.Node.value with
  | error e => rfl
  | ok v => exact absurd hread (hvalue v)

theorem literal?_quoted (hmark : Literal.isQuote mark = true) (h : Literal.Spells mark body text) :
    literal? (mark :: (body ++ [mark])) = some (.text text) := by
  have hvalue := h.value hmark
  unfold literal?
  obtain rfl | rfl := Literal.isQuote_iff.mp hmark
  all_goals
    rw [List.dropWhile_cons_of_neg (by decide), hvalue]
    rfl

theorem literal?_of_evaluate (h : evaluate rules = .ok v) :
    literal? rules = some v ∨ literal? rules = none ∧ v = .text rules := by
  unfold evaluate Literal.setting at h
  unfold literal?
  cases hread : (Literal.node (rules.dropWhile fun c => c = ' ' || c = '\t')).bind
      Literal.Node.value with
  | ok w =>
    rw [hread] at h
    exact .inl (congrArg some (Except.ok.inj h))
  | error e =>
    rw [hread] at h
    refine .inr ⟨rfl, ?_⟩
    cases e with
    | malformed | notLiteral => exact (Except.ok.inj h).symm
    | _ => contradiction

theorem StandsFor.eq_text (h : StandsFor rules text) (hvalue : evaluate rules = .ok v) :
    v = .text text := by
  have hcases := literal?_of_evaluate hvalue
  have hnone (h : literal? rules = none) : v = .text rules := by
    rw [h] at hcases
    obtain h | ⟨-, h⟩ := hcases
    · contradiction
    · exact h
  have hsome (h : literal? rules = some (.text text)) : v = .text text := by
    rw [h] at hcases
    obtain h | ⟨h, -⟩ := hcases
    · exact (Option.some.inj h).symm
    · contradiction
  cases h with
  | related h => exact hnone (literal?_of_relates h)
  | quoted hmark h => exact hsome (literal?_quoted hmark h)
  | read h => exact hsome h
  | unread h => exact hnone h

end Config

end Collation
