import Collation.Literal.Setting
import Collation.Proofs.Result
import Mathlib.Logic.Basic

/-! Expressions that can stand for values: all their parts are constants, names, signs and sums. -/

namespace Collation.Literal

namespace Node

/-- An expression that has names and constants for its parts, and none that is of another kind. -/
inductive IsPlain : Node → Prop
  | constant (v : Value) : IsPlain (constant v)
  | name (t : Text) : IsPlain (name t)
  | signed {isMinus operand} (h : IsPlain operand) : IsPlain (signed isMinus operand)
  | sum {left isMinus right} (hleft : IsPlain left) (hright : IsPlain right) :
    IsPlain (sum left isMinus right)
  | tuple {nodes} (h : ∀ n ∈ nodes, IsPlain n) : IsPlain (tuple nodes)
  | list {nodes} (h : ∀ n ∈ nodes, IsPlain n) : IsPlain (list nodes)
  | set {nodes} (h : ∀ n ∈ nodes, IsPlain n) : IsPlain (set nodes)
  | dict {pairs} (hkey : ∀ p ∈ pairs, IsPlain p.1) (hvalue : ∀ p ∈ pairs, IsPlain p.2) :
    IsPlain (dict pairs)

variable {n l r : Node} {nodes : List Node} {pairs : List (Node × Node)} {v : Value}
  {isMinus : Bool}

theorem not_isPlain_other (height : Nat) : ¬(other height).IsPlain :=
  nofun

theorem not_isPlain_around (parts : List Node) : ¬(around parts).IsPlain :=
  nofun

theorem mem_of_tuple (h : (tuple nodes).IsPlain) : ∀ n ∈ nodes, n.IsPlain := by
  cases h with
  | tuple h => exact h

theorem mem_of_list (h : (list nodes).IsPlain) : ∀ n ∈ nodes, n.IsPlain := by
  cases h with
  | list h => exact h

theorem mem_of_set (h : (set nodes).IsPlain) : ∀ n ∈ nodes, n.IsPlain := by
  cases h with
  | set h => exact h

theorem isPlain_of_withSign (h : (withSign isMinus n).IsPlain) : n.IsPlain := by
  unfold withSign at h
  split at h
  · cases h with
    | signed hn => exact hn
  · exact absurd h (not_isPlain_around _)

theorem isPlain_of_plus (h : (plus l isMinus r).IsPlain) : l.IsPlain ∧ r.IsPlain := by
  have hplus : plus l isMinus r = sum l isMinus r ∨ plus l isMinus r = around [l, r] :=
    ite_eq_or_eq ..
  obtain hplus | hplus := hplus
  · rw [hplus] at h
    cases h with
    | sum hleft hright => exact ⟨hleft, hright⟩
  · rw [hplus] at h
    exact absurd h (not_isPlain_around _)

theorem mem_of_values {found vs : List Value} (h : values found nodes = .ok vs) :
    ∀ n ∈ nodes, ∃ v, n.value = .ok v := by
  induction nodes generalizing found with
  | nil => nofun
  | cons n nodes ih =>
    unfold values at h
    cases hn : n.value with
    | error e =>
      rw [hn] at h
      contradiction
    | ok v =>
      rw [hn] at h
      exact List.forall_mem_cons.mpr ⟨⟨v, hn⟩, ih h⟩

theorem mem_of_members {found vs : List Value} (h : members found nodes = .ok vs) :
    ∀ n ∈ nodes, ∃ v, n.value = .ok v := by
  induction nodes generalizing found with
  | nil => nofun
  | cons n nodes ih =>
    unfold members at h
    cases hn : n.value with
    | error e =>
      rw [hn] at h
      contradiction
    | ok v =>
      rw [hn] at h
      dsimp only at h
      split at h
      · exact List.forall_mem_cons.mpr ⟨⟨v, hn⟩, ih h⟩
      · contradiction

theorem mem_of_pairValues {found vs : List (Value × Value)}
    (h : pairValues found pairs = .ok vs) :
    ∀ p ∈ pairs, (∃ v, p.1.value = .ok v) ∧ ∃ v, p.2.value = .ok v := by
  induction pairs generalizing found with
  | nil => nofun
  | cons p pairs ih =>
    obtain ⟨k, n⟩ := p
    unfold pairValues at h
    cases hk : k.value with
    | error e =>
      rw [hk] at h
      contradiction
    | ok key =>
      cases hn : n.value with
      | error e =>
        rw [hk, hn] at h
        contradiction
      | ok v =>
        rw [hk, hn] at h
        dsimp only at h
        split at h
        · exact List.forall_mem_cons.mpr ⟨⟨⟨key, hk⟩, v, hn⟩, ih h⟩
        · contradiction

theorem isPlain_of_number (h : n.number = .ok v) : n.IsPlain := by
  cases n with
  | constant v => exact .constant v
  | _ => contradiction

theorem isPlain_of_signedNumber (h : n.signedNumber = .ok v) : n.IsPlain := by
  cases n with
  | signed isMinus n =>
    obtain ⟨w, hw, -⟩ := bind_eq_ok h
    exact .signed (isPlain_of_number hw)
  | _ => exact isPlain_of_number h

theorem sizeOf_of_mem_dict {p : Node × Node} (hp : p ∈ pairs) :
    sizeOf p.1 < sizeOf (dict pairs) ∧ sizeOf p.2 < sizeOf (dict pairs) := by
  have hsize := List.sizeOf_lt_of_mem hp
  obtain ⟨k, n⟩ := p
  simp only [Prod.mk.sizeOf_spec, dict.sizeOf_spec] at hsize ⊢
  omega

theorem isPlain_of_value (n : Node) {v : Value} (h : n.value = .ok v) : n.IsPlain := by
  cases n with
  | constant v => exact .constant v
  | name t => exact .name t
  | signed isMinus n =>
    unfold value at h
    exact isPlain_of_signedNumber h
  | sum l isMinus r =>
    unfold value at h
    obtain ⟨w, hw, h⟩ := bind_eq_ok h
    obtain ⟨w', hw', -⟩ := bind_eq_ok h
    exact .sum (isPlain_of_signedNumber hw) (isPlain_of_number hw')
  | tuple nodes =>
    unfold value at h
    obtain ⟨vs, hvs, -⟩ := map_eq_ok h
    refine .tuple fun n hn => ?_
    obtain ⟨v, hv⟩ := mem_of_values hvs n hn
    exact isPlain_of_value n hv
  | list nodes =>
    unfold value at h
    obtain ⟨vs, hvs, -⟩ := map_eq_ok h
    refine .list fun n hn => ?_
    obtain ⟨v, hv⟩ := mem_of_values hvs n hn
    exact isPlain_of_value n hv
  | set nodes =>
    unfold value at h
    obtain ⟨vs, hvs, -⟩ := map_eq_ok h
    refine .set fun n hn => ?_
    obtain ⟨v, hv⟩ := mem_of_members hvs n hn
    exact isPlain_of_value n hv
  | dict pairs =>
    unfold value at h
    obtain ⟨vs, hvs, -⟩ := map_eq_ok h
    refine .dict (fun p hp => ?_) fun p hp => ?_
    · obtain ⟨⟨w, hw⟩, -⟩ := mem_of_pairValues hvs p hp
      have hsize := (sizeOf_of_mem_dict hp).1
      exact isPlain_of_value p.1 hw
    · obtain ⟨-, w, hw⟩ := mem_of_pairValues hvs p hp
      have hsize := (sizeOf_of_mem_dict hp).2
      exact isPlain_of_value p.2 hw
  | other height =>
    unfold value at h
    contradiction
termination_by sizeOf n

end Node

end Collation.Literal
