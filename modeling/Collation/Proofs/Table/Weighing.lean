import Collation.Failure.Basic
import Collation.Proofs.Loop
import Collation.Proofs.Table.Division

/-! Texts weighed by place: the unit at a place is looked up, and the next place is after it. Under a
table without an empty element the places go on to the end of the text. An empty element that nothing
longer goes before holds them where they are. -/

namespace Collation.Table

/-- The place in a text that is looked at, and the weights of the units before it. -/
structure Weighing where
  place : Nat
  weights : List Weight

/-- Before the end of the text, what is found at the place is weighed, and the next place is as much
further as it is long. -/
def Weighing.pass (t : Table) (text : Text) (w : Weighing) :
    Except Failure (List Weight) ⊕ Weighing :=
  if w.place < text.length then
    match t.matchAt? text w.place with
    | none => .inl (.error .index)
    | some (weight, n) => .inr ⟨w.place + n, w.weights ++ [weight]⟩
  else .inl (.ok w.weights)

/-- The weights of a text by place, unless the loop goes on more than `n` times. -/
def weighWithin (t : Table) (text : Text) (n : Nat) : Option (Except Failure (List Weight)) :=
  Loop.run (Weighing.pass t text) n ⟨0, []⟩

variable {t : Table} {text : Text} {u : Element} {n : Nat}

theorem length_pos_of_mem_lengths (hne : ∀ e ∈ t.elements, e.text ≠ []) (hn : n ∈ t.lengths) :
    1 ≤ n := by
  rw [lengths, List.mem_mergeSort, List.mem_eraseDups] at hn
  obtain ⟨e, he, rfl⟩ := List.mem_map.mp hn
  exact List.length_pos_iff.mpr (hne e he)

/-- There is a character at every place that is not past an end of the text. -/
theorem exists_at? {i : Int} (hlow : -text.length ≤ i) (hlt : i < text.length) :
    ∃ c, Text.at? i text = some c := by
  unfold Text.at?
  by_cases hnegative : i < 0
  · have hback : -i ≤ text.length := by omega
    have hplace : (i + text.length).toNat < text.length := by omega
    exact ⟨_, by rw [if_pos hnegative, if_pos hback, List.getElem?_eq_getElem hplace]⟩
  · have hplace : i.toNat < text.length := by omega
    exact ⟨_, by rw [if_neg hnegative, List.getElem?_eq_getElem hplace]⟩

/-- At every place before the end something is found that is at least one character long, and not
longer than what is left from the place on. -/
theorem exists_matchAt? (hne : ∀ e ∈ t.elements, e.text ≠ []) {i : Int}
    (hlow : -text.length ≤ i) (hlt : i < text.length) :
    ∃ w n, t.matchAt? text i = some (w, n) ∧ 1 ≤ n ∧ (n : Int) ≤ text.length - i := by
  unfold matchAt?
  dsimp only
  generalize hfound : List.findSome? _ _ = found
  cases found with
  | some p =>
    obtain ⟨k, hk, hweight⟩ := List.exists_of_findSome?_eq_some hfound
    obtain ⟨hlength, hfits⟩ := List.mem_filter.mp hk
    obtain ⟨w, -, rfl⟩ := Option.map_eq_some_iff.mp hweight
    exact ⟨w, k, rfl, length_pos_of_mem_lengths hne hlength, of_decide_eq_true hfits⟩
  | none =>
    obtain ⟨c, hc⟩ := exists_at? hlow hlt
    refine ⟨t.fallback c, 1, ?_, Nat.le_refl 1, by omega⟩
    rw [hc]
    rfl

theorem IsFirst.ne_nil (hne : ∀ e ∈ t.elements, e.text ≠ []) (h : t.IsFirst text u) :
    u.text ≠ [] := by
  rcases h with ⟨hu, -, -⟩ | ⟨-, c, rest, -, rfl⟩
  · exact hne u hu
  · exact List.cons_ne_nil c []

/-- A pass before the end of the text weighs the unit that the text is cut into at the place. -/
theorem Weighing.exists_pass (hne : ∀ e ∈ t.elements, e.text ≠ []) (w : Weighing)
    (hlt : w.place < text.length) :
    ∃ u : Element, w.pass t text = .inr ⟨w.place + u.text.length, w.weights ++ [u.weight]⟩ ∧
      1 ≤ u.text.length ∧ w.place + u.text.length ≤ text.length ∧
      t.weigh (text.drop w.place) =
        u.weight :: t.weigh (text.drop (w.place + u.text.length)) := by
  have hrest : text.drop w.place ≠ [] := by
    rw [Ne, List.drop_eq_nil_iff]
    omega
  obtain ⟨u, hu⟩ := exists_first (t := t) hrest
  have hunit := hu.ne_nil hne
  have hfirst := first?_eq_some_iff.mpr hu
  have hlength := hu.text_prefix.length_le
  rw [List.length_drop] at hlength
  have hmatch : t.matchAt? text w.place = some (u.weight, u.text.length) := by
    rw [matchAt?_eq_first? (Nat.le_of_lt hlt), hfirst]
    rfl
  refine ⟨u, ?_, List.length_pos_iff.mpr hunit, by omega, ?_⟩
  · rw [Weighing.pass, if_pos hlt, hmatch]
  · rw [weigh, segment_of_first? hfirst hunit hrest, List.drop_drop]
    rfl

/-- The weights so far, with those of what is left, are the weights of the text. -/
def Weighing.Follows (t : Table) (text : Text) (w : Weighing) : Prop :=
  w.place ≤ text.length ∧ w.weights ++ t.weigh (text.drop w.place) = t.weigh text

theorem Weighing.follows_pass (hne : ∀ e ∈ t.elements, e.text ≠ []) {w v : Weighing}
    (hw : w.Follows t text) (h : w.pass t text = .inr v) :
    v.Follows t text ∧ text.length - v.place < text.length - w.place := by
  by_cases hlt : w.place < text.length
  · obtain ⟨u, hpass, hpos, hle, hweigh⟩ := w.exists_pass hne hlt
    obtain rfl := Sum.inr.inj (hpass.symm.trans h)
    refine ⟨⟨hle, ?_⟩, ?_⟩
    · rw [← hw.2, hweigh, List.append_assoc]
      rfl
    · dsimp only
      omega
  · rw [Weighing.pass, if_neg hlt] at h
    contradiction

/-- Under a table without an empty element, a text is weighed in at most as many passes as it has
characters, with the weights of the elements that it is cut into. -/
theorem weighWithin_of_length_le (hne : ∀ e ∈ t.elements, e.text ≠ []) (hn : text.length ≤ n) :
    t.weighWithin text n = some (.ok (t.weigh text)) := by
  have hstart : Weighing.Follows t text ⟨0, []⟩ := ⟨Nat.zero_le _, rfl⟩
  obtain ⟨last, o, ⟨hle, hweights⟩, hend, hrun⟩ :=
    Loop.exists_run (fun _ _ => Weighing.follows_pass hne) hstart
  -- before the end of the text there is always another pass
  have hlast : ¬ last.place < text.length := by
    intro hlt
    obtain ⟨u, hpass, -⟩ := last.exists_pass hne hlt
    rw [hpass] at hend
    contradiction
  rw [Weighing.pass, if_neg hlast] at hend
  obtain rfl := Sum.inl.inj hend
  have hdrop : text.drop last.place = [] := List.drop_eq_nil_iff.mpr (by omega)
  rw [hdrop, weigh, segment_nil, List.map_nil, List.append_nil] at hweights
  rw [weighWithin, hrun n (by omega), hweights]

/-- Where an empty element is the longest one that a text starts with, the text is never weighed. -/
theorem weighWithin_of_empty {e : Element} (he : e ∈ t.elements) (hempty : e.text = [])
    (htext : text ≠ []) (hother : ∀ f ∈ t.elements, f.text <+: text → f.text = []) (n : Nat) :
    t.weighWithin text n = none := by
  have hlongest : t.longest? text = some e := by
    refine longest?_eq_some_iff.mpr ⟨he, hempty ▸ List.nil_prefix, ?_⟩
    intro f hf hbegins
    exact Nat.le_of_eq (by rw [hother f hf hbegins, hempty])
  have hmatch : t.matchAt? text (0 : Nat) = some (e.weight, 0) := by
    rw [matchAt?_eq_first? (Nat.zero_le _), List.drop_zero, first?_of_longest? hlongest,
      Option.map_some, hempty]
    rfl
  have hpass : ∀ w : Weighing, w.place = 0 → ∃ v, w.pass t text = .inr v ∧ v.place = 0 := by
    rintro ⟨place, weights⟩ rfl
    refine ⟨⟨0, weights ++ [e.weight]⟩, ?_, rfl⟩
    rw [Weighing.pass, if_pos (List.length_pos_iff.mpr htext), hmatch]
  exact Loop.run_eq_none hpass rfl n

end Collation.Table
