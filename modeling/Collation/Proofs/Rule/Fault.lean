import Collation.Proofs.Rule.Join
import Collation.Proofs.Rule.Sign

/-! The fault that a rule text is refused for is the one that is met first when its signs are read
from left to right and an operand is judged at the operator after it, or at the end. -/

namespace Collation

theorem FormSetting.normalize_of_form {s : FormSetting} {form : Option Form}
    (hs : s.form? = some form) (text : Text) :
    s.normalize text = .ok (Collation.normalize form text) := by
  rw [FormSetting.normalize, hs]

namespace Rule

/-- What is wrong between signs that have been read and those that come after: the next one cannot
be read, or is an operator that may not stand there, or there is none after an operator, or the last
one is an operand that is judged now and has the normal form of an earlier one. -/
inductive Met (s : FormSetting) (read rest : List Sign) : RuleError → Prop
  | unreadable {cause : RuleError.Cause} {n : Nat}
      (hrest : rest.head? = some (.unreadable cause n)) : Met s read rest ⟨cause, n⟩
  | double {q r : Relation} {k n : Nat} (hread : read.getLast? = some (.operator q k))
      (hrest : rest.head? = some (.operator r n)) : Met s read rest ⟨.doubleOperator r q, n⟩
  | leading {r : Relation} {n : Nat} (hread : read = [])
      (hrest : rest.head? = some (.operator r n)) (hr : r ≠ .primary) :
      Met s read rest ⟨.leadingOperator r, n⟩
  | trailing {r : Relation} {n : Nat} (hread : read.getLast? = some (.operator r n))
      (hrest : rest = []) : Met s read rest ⟨.trailingOperator r, n⟩
  | duplicate {earlier : List Sign} {x y element : Text} {k n : Nat}
      (hread : read = earlier ++ [.operand y n]) (hrest : judges rest = true)
      (hx : .operand x k ∈ earlier) (hxform : s.normalize x = .ok element)
      (hyform : s.normalize y = .ok element) : Met s read rest ⟨.duplicate element k, n⟩

/-- The fault that is met first in signs that come after those that have been read: wherever a fault
is met, as much has been read, and none but this one is met there. -/
def FirstMet (s : FormSetting) (read signs : List Sign) (e : RuleError) : Prop :=
  ∃ before after, signs = before ++ after ∧ Met s (read ++ before) after e ∧
    ∀ before' after' e', signs = before' ++ after' → Met s (read ++ before') after' e' →
      before <+: before' ∧ (before' = before → e' = e)

variable {s : FormSetting} {form : Option Form} {read rest signs : List Sign} {sign : Sign}
  {p q : Progress} {e : RuleError} {x y : Text} {r : Relation} {k n : Nat}

theorem firstMet_here (hmet : ∀ e', Met s read signs e' ↔ e' = e) : FirstMet s read signs e := by
  refine ⟨[], signs, rfl, ?_, ?_⟩
  · rw [List.append_nil, hmet]
  · intro before' after' e' heq hmet'
    refine ⟨List.nil_prefix, ?_⟩
    rintro rfl
    obtain rfl : signs = after' := heq
    rwa [List.append_nil, hmet] at hmet'

theorem firstMet_next (hnone : ∀ e', ¬ Met s read (sign :: signs) e')
    (h : FirstMet s (read ++ [sign]) signs e) : FirstMet s read (sign :: signs) e := by
  obtain ⟨before, after, rfl, hmet, hfirst⟩ := h
  refine ⟨sign :: before, after, rfl, by simpa using hmet, ?_⟩
  intro before' after' e' heq hmet'
  cases before' with
  | nil =>
    obtain rfl : sign :: (before ++ after) = after' := heq
    rw [List.append_nil] at hmet'
    exact absurd hmet' (hnone e')
  | cons sign' before' =>
    obtain ⟨rfl, htail⟩ := List.cons.inj heq
    obtain ⟨hbegins, heq'⟩ := hfirst before' after' e' htail (by simpa using hmet')
    exact ⟨List.cons_prefix_cons.mpr ⟨rfl, hbegins⟩, fun h => heq' (List.cons.inj h).2⟩

/-! What a parser knows of the signs that it has read. -/

/-- The element that an operand stands for, with its position. -/
def Sign.element? (form : Option Form) : Sign → Option (Text × Nat)
  | .operand x n => some (normalize form x, n)
  | _ => none

/-- The progress of a parser that has read signs: a statement for each operand, the last one first,
and the operator that was read last. -/
structure Tracks (form : Option Form) (read : List Sign) (p : Progress) : Prop where
  statements : p.statements.map (fun s => (s.element, s.position)) =
    (read.filterMap (Sign.element? form)).reverse
  nodup : (p.statements.map Statement.element).Nodup
  pending : ∀ r n, p.pending = some (r, n) ↔ read.getLast? = some (.operator r n)
  started : p.statements = [] → p.pending = none → read = []

theorem tracks_start (form : Option Form) : Tracks form [] Progress.start :=
  ⟨rfl, List.nodup_nil, by simp [Progress.start], fun _ _ => rfl⟩

theorem Tracks.nil (hp : Tracks form [] p) : p.statements = [] ∧ p.pending = none := by
  refine ⟨List.map_eq_nil_iff.mp hp.statements, ?_⟩
  cases hpending : p.pending with
  | none => rfl
  | some waiting => exact absurd ((hp.pending waiting.1 waiting.2).mp hpending) (by simp)

theorem Tracks.operator (hp : Tracks form read p)
    (h : Progress.step form p (.operator r n) = .ok q) :
    Tracks form (read ++ [.operator r n]) q := by
  obtain ⟨_, _, htoken, -, -, rfl⟩ | ⟨_, _, htoken, -, -⟩ := Progress.step_cases h
  · obtain ⟨rfl, rfl⟩ := Token.operator.inj htoken
    refine ⟨?_, hp.nodup, by simp, by simp⟩
    rw [List.filterMap_append, hp.statements]
    simp [Sign.element?]
  · contradiction

theorem Tracks.operand (hp : Tracks form read p)
    (h : Progress.step form p (.operand x n) = .ok q) :
    Tracks form (read ++ [.operand x n]) q := by
  obtain ⟨_, _, htoken, -, -, -⟩ | ⟨_, _, htoken, hnew, rfl⟩ := Progress.step_cases h
  · contradiction
  · obtain ⟨rfl, rfl⟩ := Token.operand.inj htoken
    refine ⟨?_, ?_, by simp, by simp⟩
    · rw [List.map_cons, List.filterMap_append, List.reverse_append, hp.statements]
      rfl
    · rw [List.map_cons, List.nodup_cons, List.mem_map]
      refine ⟨?_, hp.nodup⟩
      rintro ⟨s, hs, heq⟩
      exact hnew s hs heq

theorem Tracks.mem_statements_iff (hp : Tracks form read p) {element : Text} :
    (∃ s ∈ p.statements, s.element = element ∧ s.position = k) ↔
      ∃ x, .operand x k ∈ read ∧ normalize form x = element := by
  have hmem : (element, k) ∈ p.statements.map (fun s => (s.element, s.position)) ↔
      (element, k) ∈ read.filterMap (Sign.element? form) := by
    rw [hp.statements, List.mem_reverse]
  rw [List.mem_map, List.mem_filterMap] at hmem
  simp only [Prod.mk.injEq] at hmem
  rw [hmem]
  constructor
  · rintro ⟨sign, hsign, helement⟩
    cases sign with
    | operand x n =>
      obtain ⟨rfl, rfl⟩ := Prod.mk.inj (Option.some.inj helement)
      exact ⟨x, hsign, rfl⟩
    | operator r n | unreadable cause n => contradiction
  · rintro ⟨x, hx, rfl⟩
    exact ⟨_, hx, rfl⟩

/-- Operands that have been judged have different normal forms. -/
theorem Tracks.normalize_ne {earlier : List Sign}
    (hp : Tracks form (earlier ++ [.operand y n]) p) (hx : .operand x k ∈ earlier) :
    normalize form x ≠ normalize form y := by
  have helements : p.statements.map Statement.element =
      normalize form y :: ((earlier.filterMap (Sign.element? form)).map Prod.fst).reverse := by
    have hstatements := congrArg (List.map Prod.fst) hp.statements
    rw [List.map_map, List.filterMap_append, List.reverse_append, List.map_append,
      List.map_reverse, List.map_reverse] at hstatements
    exact hstatements
  have hnodup := hp.nodup
  rw [helements, List.nodup_cons, List.mem_reverse, List.mem_map] at hnodup
  intro heq
  exact hnodup.1 ⟨(normalize form x, k), List.mem_filterMap.mpr ⟨_, hx, rfl⟩, heq⟩

theorem operator_of_judges (h : judges rest = true) (hsign : rest.head? = some sign) :
    ∃ r n, sign = .operator r n := by
  obtain ⟨rest, rfl⟩ := List.head?_eq_some_iff.mp hsign
  cases sign with
  | operator r n => exact ⟨r, n, rfl⟩
  | operand x n | unreadable cause n => contradiction

/-! The faults at each sign are those that the parser has there. -/

theorem met_unreadable_iff {cause : RuleError.Cause} :
    Met s read (.unreadable cause n :: rest) e ↔ e = ⟨cause, n⟩ := by
  constructor
  · intro h
    cases h with
    | unreadable hrest =>
      obtain ⟨rfl, rfl⟩ := Sign.unreadable.inj (Option.some.inj hrest)
      rfl
    | double _ hrest | leading _ hrest _ => exact Sign.noConfusion (Option.some.inj hrest)
    | trailing _ hrest | duplicate _ hrest _ _ _ => contradiction
  · rintro rfl
    exact .unreadable rfl

/-- In front of an operand there is nothing wrong. -/
theorem not_met_operand : ¬ Met s read (.operand x n :: rest) e := by
  intro h
  cases h with
  | unreadable hrest | double _ hrest | leading _ hrest _ =>
    exact Sign.noConfusion (Option.some.inj hrest)
  | trailing _ hrest | duplicate _ hrest _ _ _ => contradiction

/-- What becomes of a scan after a progress. -/
def judgeFrom (form : Option Form) (p : Progress) (scan : Scan) :
    Except RuleError (List Statement) := do
  let q ← scan.tokens.foldlM (Progress.step form) p
  match scan.fault with
  | some e => .error e
  | none => q.finish

theorem judgeFrom_prepend (form : Option Form) (p : Progress) (token : Token) (scan : Scan) :
    judgeFrom form p (scan.prepend [token]) =
      (Progress.step form p token).bind fun q => judgeFrom form q scan := by
  unfold judgeFrom Scan.prepend
  rw [List.singleton_append, List.foldlM_cons]
  cases Progress.step form p token <;> rfl

section

variable (hs : s.form? = some form)

include hs

/-- No operand that has been judged is a duplicate. -/
theorem Tracks.not_duplicate {earlier : List Sign} {element : Text} (hp : Tracks form read p)
    (hread : read = earlier ++ [.operand y n]) (hx : .operand x k ∈ earlier)
    (hxform : s.normalize x = .ok element) (hyform : s.normalize y = .ok element) : False := by
  subst hread
  rw [FormSetting.normalize_of_form hs] at hxform hyform
  exact hp.normalize_ne hx ((Except.ok.inj hxform).trans (Except.ok.inj hyform).symm)

theorem met_operator_iff (hp : Tracks form read p) :
    Met s read (.operator r n :: rest) e ↔ Progress.step form p (.operator r n) = .error e := by
  constructor
  · intro h
    cases h with
    | unreadable hrest => exact Sign.noConfusion (Option.some.inj hrest)
    | trailing _ hrest => contradiction
    | double hread hrest =>
      obtain ⟨rfl, rfl⟩ := Sign.operator.inj (Option.some.inj hrest)
      simp only [Progress.step, (hp.pending _ _).mpr hread]
    | leading hread hrest hr =>
      obtain ⟨rfl, rfl⟩ := Sign.operator.inj (Option.some.inj hrest)
      subst hread
      obtain ⟨hempty, hpending⟩ := hp.nil
      simp only [Progress.step, hpending, hempty, List.isEmpty_nil, Bool.true_and,
        decide_eq_true_iff, if_pos hr]
    | duplicate hread _ hx hxform hyform =>
      exact (hp.not_duplicate hs hread hx hxform hyform).elim
  · intro h
    obtain ⟨_, _, q, k, htoken, hpending, rfl⟩ | ⟨_, _, htoken, hpending, hempty, hr, rfl⟩ |
      ⟨_, _, htoken, -⟩ := Progress.step_error_cases h
    · obtain ⟨rfl, rfl⟩ := Token.operator.inj htoken
      exact .double ((hp.pending q k).mp hpending) rfl
    · obtain ⟨rfl, rfl⟩ := Token.operator.inj htoken
      exact .leading (hp.started hempty hpending) rfl hr
    · contradiction

theorem met_nil_iff (hp : Tracks form read p) : Met s read [] e ↔ p.finish = .error e := by
  constructor
  · intro h
    cases h with
    | unreadable hrest | double _ hrest | leading _ hrest _ => contradiction
    | trailing hread _ => rw [Progress.finish, (hp.pending _ _).mpr hread]
    | duplicate hread _ hx hxform hyform =>
      exact (hp.not_duplicate hs hread hx hxform hyform).elim
  · intro h
    unfold Progress.finish at h
    split at h
    · next r n hpending =>
      obtain rfl := Except.error.inj h
      exact .trailing ((hp.pending r n).mp hpending) rfl
    · contradiction

theorem met_after_operand_iff (hp : Tracks form read p) (hjudged : judges rest = true) :
    Met s (read ++ [.operand x n]) rest e ↔ Progress.step form p (.operand x n) = .error e := by
  constructor
  · intro h
    cases h with
    | unreadable hrest =>
      obtain ⟨r, k, hsign⟩ := operator_of_judges hjudged hrest
      contradiction
    | double hread _ | trailing hread _ =>
      rw [List.getLast?_concat] at hread
      exact Sign.noConfusion (Option.some.inj hread)
    | leading hread _ _ => exact absurd hread (by simp)
    | duplicate hread _ hx hxform hyform =>
      obtain ⟨rfl, hlast⟩ := List.append_inj' hread rfl
      obtain ⟨rfl, rfl⟩ := Sign.operand.inj (List.cons.inj hlast).1
      rw [FormSetting.normalize_of_form hs] at hxform hyform
      obtain rfl := Except.ok.inj hxform
      obtain ⟨s, hmem, helement, rfl⟩ := hp.mem_statements_iff.mpr ⟨_, hx, rfl⟩
      have hfind := find?_of_nodup_map hp.nodup hmem
      rw [helement, ← Except.ok.inj hyform] at hfind
      simp only [Progress.step, hfind]
      rw [Except.ok.inj hyform]
  · intro h
    obtain ⟨_, _, _, _, htoken, -⟩ | ⟨_, _, htoken, -⟩ | ⟨_, _, htoken, s, hmem, helement, rfl⟩ :=
      Progress.step_error_cases h
    · contradiction
    · contradiction
    · obtain ⟨rfl, rfl⟩ := Token.operand.inj htoken
      obtain ⟨x', hx', hform⟩ := hp.mem_statements_iff.mp ⟨s, hmem, rfl, rfl⟩
      refine .duplicate rfl hjudged hx' ?_ (FormSetting.normalize_of_form hs x)
      rw [FormSetting.normalize_of_form hs, hform, helement]

/-- What signs are refused for is the fault that is met first. -/
theorem firstMet_of_judgeFrom (hchain : signs.IsChain Sign.Precedes) (hp : Tracks form read p)
    (h : judgeFrom form p (Scan.ofSigns signs) = .error e) : FirstMet s read signs e := by
  induction signs generalizing read p with
  | nil =>
    have hfinish : p.finish = .error e := h
    refine firstMet_here fun e' => ?_
    rw [met_nil_iff hs hp, hfinish, Except.error.injEq, eq_comm]
  | cons sign signs ih =>
    obtain ⟨hnext, hsigns⟩ := List.isChain_cons.mp hchain
    cases sign with
    | unreadable cause n =>
      obtain rfl := Except.error.inj h
      exact firstMet_here fun e' => met_unreadable_iff
    | operator r n =>
      rw [Scan.ofSigns, judgeFrom_prepend] at h
      cases hstep : Progress.step form p (.operator r n) with
      | error e' =>
        rw [hstep] at h
        obtain rfl : e' = e := Except.error.inj h
        refine firstMet_here fun e'' => ?_
        rw [met_operator_iff hs hp, hstep, Except.error.injEq, eq_comm]
      | ok q =>
        rw [hstep] at h
        refine firstMet_next (fun e' he' => ?_) (ih hsigns (hp.operator hstep) h)
        rw [met_operator_iff hs hp, hstep] at he'
        contradiction
    | operand x n =>
      refine firstMet_next (fun e' => not_met_operand) ?_
      rw [Scan.ofSigns] at h
      cases hjudged : judges signs with
      | true =>
        rw [hjudged, if_pos rfl, judgeFrom_prepend] at h
        cases hstep : Progress.step form p (.operand x n) with
        | error e' =>
          rw [hstep] at h
          obtain rfl : e' = e := Except.error.inj h
          refine firstMet_here fun e'' => ?_
          rw [met_after_operand_iff hs hp hjudged, hstep, Except.error.injEq, eq_comm]
        | ok q =>
          rw [hstep] at h
          exact ih hsigns (hp.operand hstep) h
      | false =>
        -- An operand is not judged only where what comes next cannot be read.
        rw [hjudged] at h
        cases signs with
        | nil => contradiction
        | cons sign signs =>
          cases sign with
          | operator r k => contradiction
          | operand y k => exact Bool.noConfusion ((hnext _ rfl).2 rfl)
          | unreadable cause k =>
            obtain rfl := Except.error.inj h
            exact firstMet_here fun e' => met_unreadable_iff

theorem firstMet_of_parse {text : Text} (hblank : Text.isBlank text = false)
    (h : parse form text = .error e) (hsigns : Shows 0 text signs) : FirstMet s [] signs e := by
  rw [parse, if_neg (by simp [hblank]), scan_of_shows hsigns] at h
  exact firstMet_of_judgeFrom hs (precedes_of_shows hsigns).2 (tracks_start form) h

end

end Rule

end Collation
