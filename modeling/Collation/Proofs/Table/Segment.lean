import Mathlib.Data.List.Nodup
import Collation.Table.Segment

/-! The longest declared element at the start of a text, and what a declared element is cut into. -/

namespace Collation.Table

variable {t : Table} {text : Text} {e : Element} {es : List Element}

theorem longer_eq_some (e : Element) (best : Option Element) :
    ∃ f, longer e best = some f ∧ (f = e ∨ best = some f) ∧ e.text.length ≤ f.text.length ∧
      ∀ b, best = some b → b.text.length ≤ f.text.length := by
  cases best with
  | none => exact ⟨e, rfl, Or.inl rfl, Nat.le_refl _, by simp⟩
  | some b =>
    unfold longer
    by_cases h : b.text.length < e.text.length
    · exact ⟨e, if_pos h, Or.inl rfl, Nat.le_refl _, by simpa using Nat.le_of_lt h⟩
    · exact ⟨b, if_neg h, Or.inr rfl, Nat.not_lt.mp h, by simp⟩

theorem foldr_longer_eq_none (h : es.foldr longer none = none) : es = [] := by
  cases es with
  | nil => rfl
  | cons e es =>
    obtain ⟨f, hf, _⟩ := longer_eq_some e (es.foldr longer none)
    rw [List.foldr_cons, hf] at h
    contradiction

theorem foldr_longer_eq_some (h : es.foldr longer none = some e) :
    e ∈ es ∧ ∀ f ∈ es, f.text.length ≤ e.text.length := by
  induction es generalizing e with
  | nil => contradiction
  | cons x xs ih =>
    obtain ⟨f, hf, hfrom, hx, hbest⟩ := longer_eq_some x (xs.foldr longer none)
    rw [List.foldr_cons, hf] at h
    obtain rfl := Option.some.inj h
    have hmem : f ∈ x :: xs := by
      rcases hfrom with rfl | hb
      · exact List.mem_cons_self
      · exact List.mem_cons_of_mem x (ih hb).1
    refine ⟨hmem, ?_⟩
    intro g hg
    rcases List.mem_cons.mp hg with rfl | hg
    · exact hx
    · cases hb : xs.foldr longer none with
      | none => rw [foldr_longer_eq_none hb] at hg; contradiction
      | some b => exact Nat.le_trans ((ih hb).2 g hg) (hbest b hb)

theorem mem_prefixes : e ∈ t.elements.filter (·.text.isPrefixOf text) ↔
    e ∈ t.elements ∧ e.text <+: text := by
  rw [List.mem_filter, List.isPrefixOf_iff_prefix]

/-- Elements of one table with the same text are the same element. -/
theorem element_eq_of_text_eq {f : Element} (he : e ∈ t.elements) (hf : f ∈ t.elements)
    (h : e.text = f.text) : e = f :=
  List.inj_on_of_nodup_map t.nodup he hf h

theorem longest?_eq_some_iff : t.longest? text = some e ↔
    e ∈ t.elements ∧ e.text <+: text ∧
      ∀ f ∈ t.elements, f.text <+: text → f.text.length ≤ e.text.length := by
  constructor
  · intro h
    obtain ⟨hmem, hmax⟩ := foldr_longer_eq_some h
    obtain ⟨he, hprefix⟩ := mem_prefixes.mp hmem
    exact ⟨he, hprefix, fun f hf hp => hmax f (mem_prefixes.mpr ⟨hf, hp⟩)⟩
  · rintro ⟨he, hprefix, hmax⟩
    cases h : t.longest? text with
    | none =>
      have hmem := mem_prefixes.mpr ⟨he, hprefix⟩
      rw [foldr_longer_eq_none h] at hmem
      contradiction
    | some f =>
      obtain ⟨hmem, hlonger⟩ := foldr_longer_eq_some h
      obtain ⟨hf, hfp⟩ := mem_prefixes.mp hmem
      have hef := hlonger e (mem_prefixes.mpr ⟨he, hprefix⟩)
      have hfe := hmax f hf hfp
      -- Two prefixes of one text that are of one length are one text.
      have htext := (List.prefix_of_prefix_length_le hfp hprefix hfe).eq_of_length_le hef
      rw [element_eq_of_text_eq hf he htext]

theorem first?_of_longest? (h : t.longest? text = some e) : t.first? text = some e := by
  rw [first?, h, Option.some_or]

/-- At the end of a text nothing is cut off any more. -/
@[simp] theorem segment_nil : t.segment [] = [] := by
  rw [segment]
  cases t.first? [] <;> simp

theorem segment_of_first? (h : t.first? text = some e) (he : e.text ≠ []) (ht : text ≠ []) :
    t.segment text = e :: t.segment (text.drop e.text.length) := by
  rw [segment, h]
  simp [List.length_pos_iff.mpr he, List.length_pos_iff.mpr ht]

/-- The text of an element is matched whole, whatever shorter elements it starts with. -/
theorem longest?_element (he : e ∈ t.elements) : t.longest? e.text = some e :=
  longest?_eq_some_iff.mpr ⟨he, List.prefix_rfl, fun _ _ hp => hp.length_le⟩

theorem weigh_element (he : e ∈ t.elements) (hne : e.text ≠ []) : t.weigh e.text = [e.weight] := by
  have hfirst := first?_of_longest? (longest?_element he)
  rw [weigh, segment_of_first? hfirst hne hne, List.drop_length, segment_nil]
  rfl

end Collation.Table
