import Mathlib.Data.List.Nodup
import Collation.Table.Basic

/-! Tables built from statements, and the weights that runs of relations lead to. -/

namespace Collation

namespace Weight

variable {rs : List Relation}

/-- The weight in effect after relations in a row. -/
def after (w : Weight) (rs : List Relation) : Weight :=
  rs.foldl next w

@[simp] theorem after_nil (w : Weight) : w.after [] = w := rfl

@[simp] theorem after_cons (w : Weight) (r : Relation) (rs : List Relation) :
    w.after (r :: rs) = (w.next r).after rs := rfl

theorem after_append (w : Weight) (rs qs : List Relation) :
    w.after (rs ++ qs) = (w.after rs).after qs :=
  List.foldl_append

/-- A rank that one relation advances, and that no other relation of a run changes, grows by the
number of times that the relation occurs. -/
theorem rank_after {f : Weight → Int} {r : Relation} (hr : ∀ w, f (w.next r) = f w + 1)
    (hrs : ∀ q ∈ rs, q ≠ r → ∀ w, f (w.next q) = f w) (w : Weight) :
    f (w.after rs) = f w + rs.count r := by
  induction rs generalizing w with
  | nil => simp
  | cons q rs ih =>
    obtain ⟨hq, hrest⟩ := List.forall_mem_cons.mp hrs
    rw [after_cons, ih hrest]
    by_cases h : q = r
    · subst h
      rw [hr, List.count_cons_self]
      omega
    · rw [hq h, List.count_cons_of_ne h]

theorem primary_next_of_ne {r : Relation} (hr : r ≠ .primary) (w : Weight) :
    (w.next r).primary = w.primary := by
  cases r with
  | primary => contradiction
  | secondary | tertiary | same => rfl

theorem primary_after (w : Weight) (rs : List Relation) :
    (w.after rs).primary = w.primary + rs.count .primary :=
  rank_after (fun _ => rfl) (fun _ _ hne => primary_next_of_ne hne) w

end Weight

namespace Table

variable {t : Table} {es : List Element} {ss : List Statement} {w : Weight}

theorem declare_new {text : Text} (h : text ∉ t.elements.map Element.text) :
    (t.declare text w).elements = t.elements ++ [⟨text, w⟩] := by
  have hnew : ¬ t.declares text = true := by
    rw [declares, List.any_eq_true]
    rintro ⟨e, he, htext⟩
    exact h (of_decide_eq_true htext ▸ List.mem_map_of_mem he)
  rw [declare, dif_neg hnew]

theorem foldl_declare (h : ((t.elements ++ es).map Element.text).Nodup) :
    (es.foldl (fun t e => t.declare e.text e.weight) t).elements = t.elements ++ es := by
  induction es generalizing t with
  | nil => simp
  | cons e es ih =>
    have hnew : e.text ∉ t.elements.map Element.text := by
      simp only [List.map_append, List.map_cons, List.nodup_append, List.mem_cons] at h
      exact fun hmem => h.2.2 _ hmem _ (Or.inl rfl) rfl
    have helements := declare_new (w := e.weight) hnew
    rw [List.foldl_cons, ih, helements, List.append_assoc]
    · rfl
    · rw [helements, List.append_assoc]
      exact h

/-- Elements with pairwise different texts make up a table in their own order. -/
theorem elements_ofElements (h : (es.map Element.text).Nodup) : (ofElements es).elements = es :=
  foldl_declare (t := empty) h

theorem texts_weighed (w : Weight) (ss : List Statement) :
    (weighed w ss).map Element.text = ss.map Statement.element := by
  induction ss generalizing w with
  | nil => rfl
  | cons s ss ih => simp [weighed, ih]

theorem getElem?_weighed (w : Weight) (ss : List Statement) (i : Nat) (hi : i < ss.length) :
    (weighed w ss)[i]? =
      some ⟨ss[i].element, w.after ((ss.map Statement.relation).take (i + 1))⟩ := by
  induction ss generalizing w i with
  | nil => contradiction
  | cons s ss ih =>
    cases i with
    | zero => simp [weighed]
    | succ i => simpa [weighed] using ih (w.next s.relation) i (Nat.lt_of_succ_lt_succ hi)

theorem weighed_append (w : Weight) (ss qs : List Statement) :
    weighed w (ss ++ qs) =
      weighed w ss ++ weighed (w.after (ss.map Statement.relation)) qs := by
  induction ss generalizing w with
  | nil => rfl
  | cons s ss ih => simp [weighed, ih]

theorem elements_ofStatements (h : (ss.map Statement.element).Nodup) :
    (ofStatements ss).elements = weighed .beforeFirst ss :=
  elements_ofElements (by rwa [texts_weighed])

end Table

end Collation
