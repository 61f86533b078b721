import Collation.Proofs.Order

/-! Sorting by key and place is the stable sort by key, and agrees with comparison word by word. -/

namespace Collation

section Stable

variable {α : Type} {le : α → α → Bool} {p : α → Bool} {xs : List α}

/-- Members that are in order among themselves keep their order. -/
theorem filter_mergeSort (htrans : ∀ a b c, le a b = true → le b c = true → le a c = true)
    (htotal : ∀ a b, (le a b || le b a) = true)
    (h : (xs.filter p).Pairwise fun a b => le a b = true) :
    (xs.mergeSort le).filter p = xs.filter p := by
  -- They are a sublist of what is sorted, so a stable sort keeps them as one, and it drops none.
  have hsub : (xs.filter p).Sublist (xs.mergeSort le) :=
    List.sublist_mergeSort htrans htotal h List.filter_sublist
  have hfiltered := hsub.filter p
  rw [List.filter_filter] at hfiltered
  simp only [Bool.and_self] at hfiltered
  have hlength := ((List.mergeSort_perm xs le).filter p).length_eq
  exact (hfiltered.eq_of_length hlength.symm).symm

end Stable

theorem key_le_trans (k l m : Key) (hkl : k.le l = true) (hlm : l.le m = true) :
    k.le m = true :=
  Key.le_iff.mpr ((Key.le_iff.mp hkl).trans (Key.le_iff.mp hlm))

theorem key_le_total (k l : Key) : (k.le l || l.le k) = true := by
  rw [Bool.or_eq_true, Key.le_iff, Key.le_iff]
  exact le_total k.levels l.levels

theorem Key.less_eq_not_le (k l : Key) : k.less l = !l.le k := by
  rw [Key.le, Bool.not_not]

theorem Key.same_eq_le_and_le (k l : Key) : k.same l = (k.le l && l.le k) := by
  rw [Bool.eq_iff_iff, Bool.and_eq_true, Key.same_iff, Key.le_iff, Key.le_iff]
  exact le_antisymm_iff

/-- Words in the order of the keys that `key` makes for them. -/
def wordLe (key : Word → Key) (a b : Word) : Bool :=
  (key a).le (key b)

variable {key : Word → Key}

theorem wordLe_trans (a b c : Word) (hab : wordLe key a b = true) (hbc : wordLe key b c = true) :
    wordLe key a c = true :=
  key_le_trans (key a) (key b) (key c) hab hbc

theorem wordLe_total (a b : Word) : (wordLe key a b || wordLe key b a) = true :=
  key_le_total (key a) (key b)

def Entry.ofPlaced (key : Word → Key) (p : Word × Nat) : Entry :=
  ⟨p.1, key p.1, p.2⟩

theorem entries_map (key : Word → Key) (ws : List Word) :
    entries ws (ws.map key) = ws.zipIdx.map (Entry.ofPlaced key) := by
  have hzip : ws.zip (ws.map key) = ws.map fun w => (w, key w) := by
    simpa using List.zip_map' (f := id) (g := key) (l := ws)
  rw [entries, hzip, List.zipIdx_map, List.map_map]
  rfl

/-- The tie-break by place is the one that a stable sort makes. -/
theorem zipIdxLE_wordLe (p q : Word × Nat) :
    List.zipIdxLE (wordLe key) p q = (Entry.ofPlaced key p).le (Entry.ofPlaced key q) := by
  obtain ⟨v, i⟩ := p
  obtain ⟨w, j⟩ := q
  change _ = ((key v).less (key w) || (key v).same (key w) && decide (i ≤ j))
  rw [Key.less_eq_not_le, Key.same_eq_le_and_le, List.zipIdxLE]
  by_cases hvw : (key v).le (key w) = true
  · by_cases hwv : (key w).le (key v) = true
    · simp [wordLe, hvw, hwv]
    · simp [wordLe, hvw, hwv]
  · have htotal := key_le_total (key v) (key w)
    have hwv : (key w).le (key v) = true := by simpa [hvw] using htotal
    simp [wordLe, hvw, hwv]

/-- The words of a list with their places, in the order of keys and places. -/
def placed (key : Word → Key) (ws : List Word) : List (Word × Nat) :=
  ws.zipIdx.mergeSort (List.zipIdxLE (wordLe key))

theorem placed_perm (key : Word → Key) (ws : List Word) : (placed key ws).Perm ws.zipIdx :=
  List.mergeSort_perm _ _

theorem placed_pairwise (key : Word → Key) (ws : List Word) :
    (placed key ws).Pairwise fun p q => List.zipIdxLE (wordLe key) p q = true :=
  List.pairwise_mergeSort (List.zipIdxLE_trans wordLe_trans) (List.zipIdxLE_total wordLe_total) _

theorem placed_pairwise_lt (key : Word → Key) (ws : List Word) :
    (placed key ws).Pairwise fun p q =>
      List.zipIdxLE (wordLe key) p q = true ∧ p.2 ≠ q.2 := by
  have hplaces : (placed key ws).Pairwise fun p q => p.2 ≠ q.2 := by
    have hperm := (placed_perm key ws).map Prod.snd
    rw [List.zipIdx_map_snd] at hperm
    exact List.pairwise_map.mp (hperm.nodup_iff.mpr List.nodup_range')
  exact (placed_pairwise key ws).and hplaces

namespace Tailoring

variable {t : Tailoring} {s : Strength} {p q : Word × Nat}

theorem sort_eq_placed (t : Tailoring) (s : Strength) (ws : List Word) :
    t.sort s ws = (placed (t.key s) ws).map Prod.fst := by
  rw [Tailoring.sort, arrange, entries_map,
    ← List.map_mergeSort (fun p _ q _ => zipIdxLE_wordLe p q), List.map_map]
  rfl

theorem sort_eq_mergeSort (t : Tailoring) (s : Strength) (ws : List Word) :
    t.sort s ws = ws.mergeSort (wordLe (t.key s)) := by
  rw [sort_eq_placed]
  exact List.mergeSort_zipIdx

theorem sort_perm (t : Tailoring) (s : Strength) (ws : List Word) : (t.sort s ws).Perm ws := by
  rw [sort_eq_mergeSort]
  exact List.mergeSort_perm ws _

theorem pairwise_sort (t : Tailoring) (s : Strength) (ws : List Word) :
    (t.sort s ws).Pairwise fun a b => wordLe (t.key s) a b = true := by
  rw [sort_eq_mergeSort]
  exact List.pairwise_mergeSort wordLe_trans wordLe_total ws

theorem sort_sort (t : Tailoring) (s : Strength) (ws : List Word) :
    t.sort s (t.sort s ws) = t.sort s ws := by
  rw [sort_eq_mergeSort t s (t.sort s ws), List.mergeSort_of_pairwise (pairwise_sort t s ws)]

theorem wordLe_iff_compare {a b : Word} :
    wordLe (t.key s) a b = true ↔ t.compare s a b ≠ .gt := by
  rw [wordLe, Key.le_iff]
  exact (compare_compares t s a b).ne_gt.symm

theorem compare_eq_iff_wordLe {a b : Word} : t.compare s a b = .eq ↔
    wordLe (t.key s) a b = true ∧ wordLe (t.key s) b a = true := by
  rw [wordLe, wordLe, Key.le_iff, Key.le_iff, ← le_antisymm_iff]
  exact (compare_compares t s a b).eq_eq

theorem isBlank_of_compare_ne_gt {a b : Word} (h : t.compare s a b ≠ .gt)
    (hb : b.isBlank = true) : a.isBlank = true := by
  cases ha : a.isBlank with
  | true => rfl
  | false => simp [Tailoring.compare, Word.compareBlank, ha, hb] at h

/-- Of two words in the order of keys and places, the first one compares as less, or as equal with
the lower place. -/
theorem compare_of_zipIdxLE (h : List.zipIdxLE (wordLe (t.key s)) p q = true) (hne : p.2 ≠ q.2) :
    t.compare s p.1 q.1 ≠ .gt ∧ (t.compare s p.1 q.1 = .eq → p.2 < q.2) := by
  rw [List.zipIdxLE] at h
  split at h
  · next hle =>
    refine ⟨wordLe_iff_compare.mp hle, fun heq => ?_⟩
    rw [if_pos (compare_eq_iff_wordLe.mp heq).2, decide_eq_true_eq] at h
    omega
  · contradiction

end Tailoring

/-- A pool that cannot be started ends no run. -/
theorem Pool.isOrdinary_of_startFor {processes : Value} {e : Failure}
    (h : startFor processes = .error e) : e.isOrdinary = true := by
  obtain rfl | rfl : e = .noWorkers ∨ e = .type := by
    unfold startFor startOf at h
    grind
  · decide
  · decide

namespace Collator

variable (c : Collator) (ws : List Word)

/-- Whatever becomes of the pool, the words are sorted by the keys of the collator. -/
theorem sort_fst : (c.sort ws).1 = .ok (c.tailoring.sort c.strength ws) := by
  have hserial : ws.mapM (fun w => Except.ok (c.tailoring.key c.strength w)) =
      (Except.ok (ws.map c.key) : Except Failure (List Key)) := List.mapM_pure
  unfold Collator.sort Tailoring.sortBy Tailoring.keysBy
  dsimp only
  rw [Workers.map_eq, Workers.mapKept, hserial]
  cases hstart : Pool.startFor c.processes with
  | error e =>
    have hretry : (true && e.isOrdinary) = true := Pool.isOrdinary_of_startFor hstart
    change ((if _ then _ else if _ then _ else if true && e.isOrdinary then _ else _ :
      Except Failure (List Key) × Bool).1.map (arrange ws)) = _
    rw [if_pos hretry]
    split
    · rfl
    · split <;> rfl
  | ok _ =>
    split
    · rfl
    · split <;> rfl

/-- Sorting orders the words with their places by comparison, and words that compare as equal by
place, so that blank words come first. It is the stable sort by key, and changes nothing the second
time. -/
theorem sort_stable_by_compare :
    ∃ sorted : List (Word × Nat),
      (c.sort ws).1 = .ok (sorted.map Prod.fst) ∧
      sorted.Perm ws.zipIdx ∧
      sorted.Pairwise (fun p q =>
        c.compare p.1 q.1 ≠ .gt ∧
        (c.compare p.1 q.1 = .eq → p.2 < q.2) ∧
        (q.1.isBlank = true → p.1.isBlank = true)) ∧
      sorted.map Prod.fst = ws.mergeSort (fun a b => (c.key a).le (c.key b)) ∧
      (c.sort (sorted.map Prod.fst)).1 = .ok (sorted.map Prod.fst) := by
  have hplaced := Tailoring.sort_eq_placed c.tailoring c.strength ws
  have hstable := Tailoring.sort_eq_mergeSort c.tailoring c.strength ws
  refine ⟨placed (c.tailoring.key c.strength) ws, ?_, placed_perm _ ws, ?_,
    hplaced.symm.trans hstable, ?_⟩
  · rw [sort_fst, hplaced]
  · refine (placed_pairwise_lt _ ws).imp ?_
    rintro p q ⟨hle, hne⟩
    obtain ⟨hgt, heq⟩ := Tailoring.compare_of_zipIdxLE hle hne
    exact ⟨hgt, heq, Tailoring.isBlank_of_compare_ne_gt hgt⟩
  · rw [← hplaced, sort_fst, Tailoring.sort_sort]

end Collator

end Collation
