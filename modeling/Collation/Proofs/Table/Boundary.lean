import Collation.Proofs.Table.Division

/-! Where one unit of a text ends and the next one starts, the text can be cut without a change to
any unit: its weights are those of the two parts. -/

namespace Collation

namespace Table

variable {t : Table} {text part rest : Text} {u : Element} {us before after : List Element}
  {i : Nat}

/-- A place between two units of a text, or at one of its ends. -/
def IsBoundary (t : Table) (text : Text) (i : Nat) : Prop :=
  ∃ before after, t.segment text = before ++ after ∧ (before.flatMap Element.text).length = i

/-- A unit at the start of a text stays so where the text ends earlier, as long as it is there. -/
theorem IsFirst.of_prefix (h : t.IsFirst text u) (hpart : part <+: text) (hu : u.text <+: part) :
    t.IsFirst part u := by
  obtain ⟨hmem, -, hmax⟩ | ⟨hnone, c, rest, rfl, rfl⟩ := h
  · exact Or.inl ⟨hmem, hu, fun e he hbegins => hmax e he (hbegins.trans hpart)⟩
  · obtain ⟨after, rfl⟩ := hu
    exact Or.inr ⟨fun e he hbegins => hnone e he (hbegins.trans hpart), c, after, rfl, rfl⟩

theorem Division.parts (h : t.Division text (before ++ after)) :
    before.flatMap Element.text ++ after.flatMap Element.text = text := by
  rw [← List.flatMap_append, h.whole]

theorem Division.left (h : t.Division text (before ++ after)) :
    t.Division (before.flatMap Element.text) before := by
  refine ⟨rfl, fun u hu => h.nonempty u (List.mem_append_left after hu), ?_⟩
  rintro first u last rfl
  have hfirst := h.first first u (last ++ after) (by simp)
  rw [← h.parts, List.flatMap_append, List.append_assoc, List.drop_left] at hfirst
  rw [List.flatMap_append, List.drop_left]
  refine hfirst.of_prefix (List.prefix_append _ _) ?_
  rw [List.flatMap_cons]
  exact List.prefix_append _ _

theorem Division.right (h : t.Division text (before ++ after)) :
    t.Division (after.flatMap Element.text) after := by
  refine ⟨rfl, fun u hu => h.nonempty u (List.mem_append_right before hu), ?_⟩
  rintro first u last rfl
  have hfirst := h.first (before ++ first) u last (by simp)
  rwa [List.flatMap_append, List.length_append, ← List.drop_drop, ← h.parts, List.drop_left]
    at hfirst

section

variable (hne : ∀ e ∈ t.elements, e.text ≠ [])

include hne

theorem weigh_of_division (h : t.Division text us) : t.weigh text = us.map Element.weight := by
  rw [weigh, (division_segment hne text).unique h]

theorem weigh_of_boundary (h : t.IsBoundary text i) :
    t.weigh text = t.weigh (text.take i) ++ t.weigh (text.drop i) := by
  obtain ⟨before, after, hsegment, rfl⟩ := h
  have hdivision : t.Division text (before ++ after) := hsegment ▸ division_segment hne text
  rw [weigh_of_division hne hdivision, ← hdivision.parts, List.take_left, List.drop_left,
    weigh_of_division hne hdivision.left, weigh_of_division hne hdivision.right, List.map_append]

theorem weigh_append (h : t.IsBoundary (text ++ rest) text.length) :
    t.weigh (text ++ rest) = t.weigh text ++ t.weigh rest := by
  rw [weigh_of_boundary hne h, List.take_left, List.drop_left]

theorem weigh_ne_nil (htext : text ≠ []) : t.weigh text ≠ [] := by
  have hdivision := division_segment hne text
  rw [weigh, Ne, List.map_eq_nil_iff]
  intro hnil
  rw [hnil] at hdivision
  exact htext (division_nil.mp hdivision)

end

end Table

end Collation
