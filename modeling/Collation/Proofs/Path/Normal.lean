import Collation.Path
import Collation.Proofs.Text.Parts

/-! Normal paths, and paths that are joined to them. A normal path is never empty, and only the root
ends with a slash. -/

namespace Collation.Path

variable {names : List Text} {name path base rest : Text}

/-- A part of a path between slashes. -/
def IsName (name : Text) : Prop :=
  name ≠ [] ∧ '/' ∉ name

theorem isName_stepNormal (rooted : Bool) (h : ∀ n ∈ names, IsName n) (hname : '/' ∉ name) :
    ∀ n ∈ stepNormal rooted names name, IsName n := by
  unfold stepNormal
  split
  · exact h
  · next hskip =>
    have hne : name ≠ [] := by
      rintro rfl
      exact hskip rfl
    split
    · exact List.forall_mem_cons.mpr ⟨⟨hne, hname⟩, h⟩
    · cases names with
      | nil =>
        dsimp only
        split
        · exact List.forall_mem_nil _
        · exact List.forall_mem_singleton.mpr ⟨hne, hname⟩
      | cons last names =>
        dsimp only
        split
        · exact List.forall_mem_cons.mpr ⟨⟨hne, hname⟩, h⟩
        · exact (List.forall_mem_cons.mp h).2

theorem isName_foldl_stepNormal (rooted : Bool) {parts : List Text}
    (hparts : ∀ part ∈ parts, '/' ∉ part) (h : ∀ n ∈ names, IsName n) :
    ∀ n ∈ parts.foldl (stepNormal rooted) names, IsName n := by
  induction parts generalizing names with
  | nil => exact h
  | cons part parts ih =>
    obtain ⟨hpart, hparts⟩ := List.forall_mem_cons.mp hparts
    exact ih hparts (isName_stepNormal rooted h hpart)

theorem eq_slash_of_mem_rootSlashes {c : Char} (h : c ∈ rootSlashes path) : c = '/' := by
  unfold rootSlashes at h
  split at h
  · simpa using h
  · contradiction
  · exact List.mem_singleton.mp h

/-- A normal path is a dot, or names with slashes between them and in front. -/
theorem normal_cases (path : Text) : normal path = ['.'] ∨
    ∃ names : List Text, (∀ n ∈ names, IsName n) ∧
      normal path = rootSlashes path ++ Text.join ['/'] names.reverse ∧ normal path ≠ [] := by
  unfold normal
  extract_lets root names result
  split
  · exact Or.inl rfl
  · next hresult =>
    refine Or.inr ⟨names, ?_, rfl, fun hnil => hresult (by rw [hnil]; rfl)⟩
    exact isName_foldl_stepNormal _ (fun _ => Text.not_mem_of_mem_splitAt) (List.forall_mem_nil _)

theorem normal_ne_nil (path : Text) : normal path ≠ [] := by
  obtain hdot | ⟨-, -, -, hne⟩ := normal_cases path
  · rw [hdot]
    exact List.cons_ne_nil _ _
  · exact hne

/-- Only slashes are normal and end with a slash. -/
theorem eq_slash_of_getLast?_normal (h : (normal path).getLast? = some '/') :
    ∀ c ∈ normal path, c = '/' := by
  obtain hdot | ⟨names, hnames, hnormal, -⟩ := normal_cases path
  · rw [hdot] at h
    exact absurd h (by decide)
  · cases names with
    | nil =>
      rw [hnormal, List.reverse_nil, Text.join, List.intersperse_nil, List.flatten_nil,
        List.append_nil]
      exact fun c => eq_slash_of_mem_rootSlashes
    | cons last names =>
      -- The last name holds no slash, so that the path cannot end with one.
      obtain ⟨hne, hslash⟩ := hnames last List.mem_cons_self
      rw [hnormal, List.reverse_cons, List.getLast?_append, Text.getLast?_join_concat hne,
        List.getLast?_eq_some_getLast hne, Option.some_or] at h
      exact absurd (Option.some.inj h ▸ List.getLast_mem hne) hslash

theorem join_ne_nil (h : base ≠ []) (path : Text) : join base path ≠ [] := by
  unfold join
  split
  · next habsolute =>
    rintro rfl
    exact absurd habsolute (by decide)
  · split
    · exact List.append_ne_nil_of_left_ne_nil h _
    · exact List.append_ne_nil_of_left_ne_nil h _

/-- What stands between a directory and a path in it. -/
def gap (base : Text) : Text :=
  if base.all (· = '/') then [] else ['/']

theorem join_of_absolute (h : isAbsolute rest = true) (base : Text) : join base rest = rest :=
  if_pos h

theorem join_normal_of_relative (h : isAbsolute rest = false) (path : Text) :
    join (normal path) rest = normal path ++ gap (normal path) ++ rest := by
  have hempty : (normal path).isEmpty = false :=
    List.isEmpty_eq_false_iff.mpr (normal_ne_nil path)
  unfold join
  rw [h, hempty, Bool.false_or]
  by_cases hlast : (normal path).getLast? = some '/'
  · have hgap : gap (normal path) = [] := by
      apply if_pos
      rw [List.all_eq_true]
      exact fun c hc => decide_eq_true (eq_slash_of_getLast?_normal hlast c hc)
    simp [hlast, hgap]
  · have hgap : gap (normal path) = ['/'] := by
      apply if_neg
      intro hall
      rw [List.all_eq_true] at hall
      have hmem := List.getLast_mem (normal_ne_nil path)
      apply hlast
      rw [List.getLast?_eq_some_getLast (normal_ne_nil path), of_decide_eq_true (hall _ hmem)]
    simp [hlast, hgap]

end Collation.Path
