import Collation.Scheme
import Collation.Collator

/-! A table whose form has a known name makes keys, compares and sorts as a tailoring does. -/

namespace Collation.Scheme

variable {t : Scheme} {form : Option Form} {s : Strength}

theorem key_of_form (h : (FormSetting.ofName t.formName).form? = some form) (w : Word) :
    t.key s w = .ok ((⟨t.table, form⟩ : Tailoring).key s w) := by
  simp only [key, normalize, FormSetting.normalize, h]
  rfl

theorem compare_of_form (h : (FormSetting.ofName t.formName).form? = some form) (a b : Word) :
    t.compare (.ok s) a b = .ok ((⟨t.table, form⟩ : Tailoring).compare s a b) := by
  unfold Scheme.compare Tailoring.compare
  cases Word.compareBlank a b with
  | some o => rfl
  | none =>
    change (t.key s a >>= fun k => t.key s b >>= fun l => pure (Key.compare s k l)) = _
    rw [key_of_form h, key_of_form h]
    rfl

theorem sort_of_form (h : (FormSetting.ofName t.formName).form? = some form) (ws : List Word) :
    t.sort (.ok s) ws = .ok ((⟨t.table, form⟩ : Tailoring).sort s ws) := by
  have hkeys : t.keys (.ok s) ws = .ok (ws.map ((⟨t.table, form⟩ : Tailoring).key s)) := by
    have hkey : t.key s = fun w => .ok ((⟨t.table, form⟩ : Tailoring).key s w) :=
      funext (key_of_form h)
    change ws.mapM (t.key s) = _
    rw [hkey]
    exact List.mapM_pure
  cases ws with
  | nil => simp [Scheme.sort, Tailoring.sort, arrange, entries]
  | cons w ws =>
    rw [Scheme.sort, hkeys]
    rfl

end Collation.Scheme
