/-! Loops whose passes are counted. A pass ends the loop with a result, or the loop goes on from
another state. -/

namespace Collation.Loop

variable {σ ω : Type} {body : σ → ω ⊕ σ} {s t : σ} {o : ω}

/-- The result of a loop that goes on at most `n` times before it ends. -/
def run (body : σ → ω ⊕ σ) : Nat → σ → Option ω
  | 0, s => (body s).getLeft?
  | n + 1, s => (body s).elim some (run body n)

theorem run_of_end (h : body s = .inl o) (n : Nat) : run body n s = some o := by
  cases n with
  | zero => rw [run, h, Sum.getLeft?_inl]
  | succ n => rw [run, h, Sum.elim_inl]

theorem run_of_next (h : body s = .inr t) (n : Nat) : run body (n + 1) s = run body n t := by
  rw [run, h, Sum.elim_inr]

/-- A loop ends that goes down a measure whenever it goes on, and it ends in a state that keeps what
each pass keeps. -/
theorem exists_run {P : σ → Prop} {μ : σ → Nat}
    (hstep : ∀ s t, P s → body s = .inr t → P t ∧ μ t < μ s) (hs : P s) :
    ∃ last o, P last ∧ body last = .inl o ∧ ∀ n, μ s ≤ n → run body n s = some o := by
  -- on the measure, since the states that the loop goes through have no order of their own
  induction hμ : μ s using Nat.strongRecOn generalizing s with
  | ind k ih =>
    cases hbody : body s with
    | inl o => exact ⟨s, o, hs, hbody, fun n _ => run_of_end hbody n⟩
    | inr t =>
      obtain ⟨ht, hlt⟩ := hstep s t hs hbody
      obtain ⟨last, o, hlast, hend, hrun⟩ := ih (μ t) (by omega) ht rfl
      refine ⟨last, o, hlast, hend, ?_⟩
      intro n hn
      obtain ⟨m, rfl⟩ : ∃ m, n = m + 1 := ⟨n - 1, by omega⟩
      rw [run_of_next hbody]
      exact hrun m (by omega)

/-- A loop does not end that always goes on from states of a kind to states of that kind. -/
theorem run_eq_none {P : σ → Prop} (hstep : ∀ s, P s → ∃ t, body s = .inr t ∧ P t) (hs : P s)
    (n : Nat) : run body n s = none := by
  induction n generalizing s with
  | zero =>
    obtain ⟨t, hbody, -⟩ := hstep s hs
    rw [run, hbody, Sum.getLeft?_inr]
  | succ n ih =>
    obtain ⟨t, hbody, ht⟩ := hstep s hs
    rw [run_of_next hbody]
    exact ih ht

end Collation.Loop
