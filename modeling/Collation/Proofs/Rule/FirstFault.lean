import Collation.Proofs.Rule.Fault

/-! The fault that a rule text is refused for is the one that is met first, under every setting of
the form, and the text at its position is what it blames. -/

namespace Collation.Rule

variable {s : FormSetting} {form : Option Form} {read rest signs : List Sign} {e : RuleError}

/-! Under an unknown form no operand is judged. -/

/-- Before a first operand there are only operators that may not stand there. -/
theorem steps_ne_duplicate {ts : List Token} (hreach : reachesOperand ts = false)
    (h : ts.foldlM (Progress.step form) Progress.start = .error e) (element : Text) (k : Nat) :
    e.cause ≠ .duplicate element k := by
  cases ts with
  | nil => contradiction
  | cons token ts =>
    cases token with
    | operand x n => contradiction
    | operator r n =>
      cases r with
      | secondary | tertiary | same =>
        obtain rfl := Except.error.inj h
        exact RuleError.Cause.noConfusion
      | primary =>
        cases ts with
        | nil => contradiction
        | cons token ts =>
          cases token with
          | operand x n => contradiction
          | operator r k =>
            obtain rfl := Except.error.inj h
            exact RuleError.Cause.noConfusion

theorem met_off_of_met (hs : s.form? = none) (h : Met s read rest e) : Met .off read rest e := by
  have hform : ∀ {x element : Text}, s.normalize x = .ok element →
      FormSetting.off.normalize x = .ok element := by
    intro x element hx
    rw [FormSetting.normalize, hs] at hx
    change (if x.isEmpty then Except.ok [] else .error Failure.unknownForm) =
      Except.ok element at hx
    split at hx
    · next hempty =>
      rw [List.isEmpty_iff.mp hempty]
      exact hx
    · contradiction
  cases h with
  | unreadable hrest => exact .unreadable hrest
  | double hread hrest => exact .double hread hrest
  | leading hread hrest hr => exact .leading hread hrest hr
  | trailing hread hrest => exact .trailing hread hrest
  | duplicate hread hrest hx hxform hyform =>
    exact .duplicate hread hrest hx (hform hxform) (hform hyform)

theorem met_of_met_off (h : Met .off read rest e)
    (hcause : ∀ element k, e.cause ≠ .duplicate element k) : Met s read rest e := by
  cases h with
  | unreadable hrest => exact .unreadable hrest
  | double hread hrest => exact .double hread hrest
  | leading hread hrest hr => exact .leading hread hrest hr
  | trailing hread hrest => exact .trailing hread hrest
  | duplicate _ _ _ _ _ => exact absurd rfl (hcause _ _)

theorem parse_of_unknown {text : Text} (hs : s.form? = none) (hblank : Text.isBlank text = false)
    (h : parseSetting s (some text) = .error (.rule e)) :
    reachesOperand (scan text).tokens = false ∧ parse none text = .error e := by
  rw [parseSetting, hs] at h
  change (if (!Text.isBlank text && reachesOperand (scan text).tokens) then
    Except.error Failure.unknownForm else (parse none text).mapError .rule) = _ at h
  rw [hblank, Bool.not_false, Bool.true_and] at h
  cases hreach : reachesOperand (scan text).tokens with
  | true =>
    rw [hreach] at h
    exact Failure.noConfusion (Except.error.inj h)
  | false =>
    rw [hreach] at h
    obtain ⟨e', hparse, heq⟩ := mapError_eq_error h
    obtain rfl := Failure.rule.inj heq
    exact ⟨rfl, hparse⟩

theorem FirstMet.of_off (hs : s.form? = none) (h : FirstMet .off read signs e)
    (hcause : ∀ element k, e.cause ≠ .duplicate element k) : FirstMet s read signs e := by
  obtain ⟨before, after, heq, hmet, hfirst⟩ := h
  refine ⟨before, after, heq, met_of_met_off hmet hcause, ?_⟩
  exact fun before' after' e' heq' hmet' =>
    hfirst before' after' e' heq' (met_off_of_met hs hmet')

theorem firstMet_of_unknown {text : Text} (hs : s.form? = none)
    (hblank : Text.isBlank text = false) (hreach : reachesOperand (scan text).tokens = false)
    (h : parse none text = .error e) (hsigns : Shows 0 text signs) : FirstMet s [] signs e := by
  refine (firstMet_of_parse (s := .off) rfl hblank h hsigns).of_off hs ?_
  rw [parse, if_neg (by simp [hblank])] at h
  obtain hsteps | ⟨_, -, hfault | ⟨-, _, _, -, rfl⟩⟩ := judge_error_cases h
  · exact steps_ne_duplicate hreach hsteps
  · intro element k hcause
    obtain hunclosed | ⟨c, hreserved⟩ := cause_of_scan_fault hfault
    · exact RuleError.Cause.noConfusion (hcause.symm.trans hunclosed)
    · exact RuleError.Cause.noConfusion (hcause.symm.trans hreserved)
  · exact fun _ _ => RuleError.Cause.noConfusion

/-- Whether the text at the position of a fault is what the fault blames. -/
def Blames (text : Text) (e : RuleError) : Prop :=
  match e.cause with
  | .empty => False
  | .reserved c => isReserved c = true ∧ text[e.position]? = some c
  | .unclosedQuote =>
    text[e.position]? = some quote ∧ Unclosed (text.drop (e.position + 1))
  | .doubleOperator r _ | .leadingOperator r | .trailingOperator r =>
    text[e.position]? = some r.symbol
  | .duplicate _ earlier => earlier < e.position ∧ ∀ n ∈ [earlier, e.position],
    ∃ (p : Piece) (rest : Text), text.drop n = p.written ++ rest ∧ p.Fits rest

/-- A fault that is met has a position in the text, at which stands what it blames. -/
theorem blames_of_met {text : Text} (hsigns : Shows 0 text (read ++ rest))
    (h : Met s read rest e) : e.position < text.length ∧ Blames text e := by
  have hstands : ∀ sign ∈ read ++ rest, sign.Stands text :=
    fun sign hsign => stands_of_shows hsigns rfl hsign
  have hread : ∀ {sign}, read.getLast? = some sign → sign.Stands text := fun h =>
    hstands _ (List.mem_append_left rest (List.mem_of_getLast? h))
  have hrest : ∀ {sign}, rest.head? = some sign → sign.Stands text := fun h =>
    hstands _ (List.mem_append_right read (List.mem_of_head? h))
  cases h with
  | unreadable hnext =>
    refine ⟨(hrest hnext).position_lt, ?_⟩
    obtain ⟨c, after, rfl, hc, hdrop⟩ | ⟨after, rfl, hunclosed, hdrop⟩ := hrest hnext
    · exact ⟨hc, getElem?_of_drop hdrop⟩
    · refine ⟨getElem?_of_drop hdrop, ?_⟩
      rw [← List.drop_drop, hdrop]
      exact hunclosed
  | double _ hnext | leading _ hnext _ => exact ⟨(hrest hnext).position_lt, (hrest hnext).symbol⟩
  | trailing hlast _ => exact ⟨(hread hlast).position_lt, (hread hlast).symbol⟩
  | @duplicate earlier x y element k n heq _ hx _ _ =>
    subst heq
    have hlast : Sign.operand y n ∈ earlier ++ [.operand y n] := by simp
    have hearlier : k < n := by
      have hincreasing := increasing_of_shows hsigns
      rw [List.append_assoc, List.map_append, List.pairwise_append] at hincreasing
      exact hincreasing.2.2 k (List.mem_map.mpr ⟨_, hx, rfl⟩) n (by simp [Sign.position])
    obtain ⟨p, rest', hdrop, hp, -⟩ := hstands _ (List.mem_append_left rest hlast)
    obtain ⟨q, rest'', hdrop', hq, -⟩ :=
      hstands _ (List.mem_append_left rest (List.mem_append_left _ hx))
    refine ⟨(hstands _ (List.mem_append_left rest hlast)).position_lt, hearlier, ?_⟩
    simp only [List.forall_mem_cons, List.not_mem_nil, false_imp_iff, implies_true, and_true]
    exact ⟨⟨q, rest'', hdrop', hq⟩, p, rest', hdrop, hp⟩

/-- If rules that are not only white space are refused with a fault of their text, the position of
the fault is one in the text, at which stands what it blames, and it is the fault that is met first,
however the text is divided into signs. -/
theorem parseSetting_first_fault {text : Text} (hblank : Text.isBlank text = false)
    (h : parseSetting s (some text) = .error (.rule e)) :
    e.position < text.length ∧ Blames text e ∧ (∃ signs, Shows 0 text signs) ∧
      ∀ signs, Shows 0 text signs → FirstMet s [] signs e := by
  have hfirst : ∀ signs, Shows 0 text signs → FirstMet s [] signs e := by
    intro signs hsigns
    cases hs : s.form? with
    | some form =>
      rw [parseSetting_of_form hs] at h
      obtain ⟨e', hparse, heq⟩ := mapError_eq_error h
      obtain rfl := Failure.rule.inj heq
      exact firstMet_of_parse hs hblank hparse hsigns
    | none =>
      obtain ⟨hreach, hparse⟩ := parse_of_unknown hs hblank h
      exact firstMet_of_unknown hs hblank hreach hparse hsigns
  obtain ⟨signs, hsigns⟩ := exists_shows 0 text
  obtain ⟨before, after, rfl, hmet, -⟩ := hfirst signs hsigns
  obtain ⟨hposition, hblames⟩ := blames_of_met hsigns hmet
  exact ⟨hposition, hblames, ⟨_, hsigns⟩, hfirst⟩

/-- Two operands that come again, and after them two operators side by side and an open quote. -/
def faultyRules : Text :=
  "b < ch = 'b' < 'ch' = = 'c"

theorem parseSetting_first_fault_repeated :
    Text.isBlank faultyRules = false ∧
    parseSetting .off (some faultyRules) = .error (.rule ⟨.duplicate ['b'] 0, 9⟩) ∧
    Blames faultyRules ⟨.duplicate ['b'] 0, 9⟩ ∧
    ∃ signs, Shows 0 faultyRules signs ∧ FirstMet .off [] signs ⟨.duplicate ['b'] 0, 9⟩ := by
  have hblank : Text.isBlank faultyRules = false := by decide +kernel
  have hparse : parse none faultyRules = .error ⟨.duplicate ['b'] 0, 9⟩ := by decide +kernel
  have h : parseSetting .off (some faultyRules) = .error (.rule ⟨.duplicate ['b'] 0, 9⟩) := by
    rw [parseSetting_of_form (s := .off) rfl, Option.getD_some, hparse]
    rfl
  obtain ⟨-, hblames, ⟨signs, hsigns⟩, hfirst⟩ := parseSetting_first_fault hblank h
  exact ⟨hblank, h, hblames, signs, hsigns, hfirst signs hsigns⟩

end Collation.Rule
