import Mathlib.Data.List.DropRight
import Collation.Proofs.File.Growth
import Collation.Proofs.Text.Parts

/-! The way to a file. If a path leads somewhere, there are directories at all slashes of it. -/

namespace Collation

namespace Path

variable {path a b : Text}

theorem upToSlash_append_lastName (path : Text) : upToSlash path ++ lastName path = path := by
  have hparts := List.takeWhile_append_dropWhile (p := (· ≠ '/')) (l := path.reverse)
  have hreverse := congrArg List.reverse hparts
  rw [List.reverse_append, List.reverse_reverse] at hreverse
  exact hreverse

theorem exists_slash_of_upToSlash (h : upToSlash path ≠ []) :
    ∃ before, upToSlash path = before ++ ['/'] := by
  unfold upToSlash at h ⊢
  have hne : path.reverse.dropWhile (· ≠ '/') ≠ [] := by simpa using h
  obtain ⟨c, rest, hdrop⟩ := List.exists_cons_of_ne_nil hne
  have hnot := List.head?_dropWhile_not (· ≠ '/') path.reverse
  rw [hdrop] at hnot
  have hc : c = '/' := by simpa using hnot
  exact ⟨rest.reverse, by rw [hdrop, hc, List.reverse_cons]⟩

theorem not_mem_of_upToSlash (h : upToSlash path = []) : '/' ∉ path := by
  unfold upToSlash at h
  intro hmem
  have hnil : path.reverse.dropWhile (· ≠ '/') = [] := by simpa using h
  have hall := List.dropWhile_eq_nil_iff.mp hnil '/' (List.mem_reverse.mpr hmem)
  simp at hall

/-- Slashes that are cut off stood at the end. -/
theorem trimSlashes_append (path : Text) :
    ∃ slashes, path = trimSlashes path ++ slashes ∧ ∀ c ∈ slashes, c = '/' := by
  refine ⟨(path.reverse.takeWhile (· = '/')).reverse, ?_, ?_⟩
  · have hparts := List.takeWhile_append_dropWhile (p := (· = '/')) (l := path.reverse)
    have hreverse := congrArg List.reverse hparts
    rw [List.reverse_append, List.reverse_reverse] at hreverse
    exact hreverse.symm
  · intro c hc
    have hmem := List.mem_takeWhile_imp (List.mem_reverse.mp hc)
    exact of_decide_eq_true hmem

theorem getLast?_trimSlashes (path : Text) : (trimSlashes path).getLast? ≠ some '/' := by
  unfold trimSlashes
  rw [List.getLast?_reverse]
  intro hhead
  have hnot := List.head?_dropWhile_not (· = '/') path.reverse
  rw [hhead] at hnot
  simp at hnot

/-- The path before the last name is empty, the root, or ends before a slash. -/
theorem parent_cases (path : Text) :
    ('/' ∉ path ∧ parent path = []) ∨
    (parent path ≠ [] ∧ (∀ c ∈ parent path, c = '/') ∧ parent path <+: path) ∨
    (parent path ≠ [] ∧ ∃ rest, path = parent path ++ '/' :: rest) := by
  have hpath := upToSlash_append_lastName path
  by_cases hhead : upToSlash path = []
  · refine Or.inl ⟨not_mem_of_upToSlash hhead, ?_⟩
    rw [parent, hhead]
    rfl
  right
  by_cases hall : ((upToSlash path).all (· = '/')) = true
  · left
    have hparent : parent path = upToSlash path := if_pos hall
    rw [hparent]
    refine ⟨hhead, ?_, ⟨lastName path, hpath⟩⟩
    intro c hc
    exact of_decide_eq_true (List.all_eq_true.mp hall c hc)
  · right
    have hparent : parent path = trimSlashes (upToSlash path) := if_neg hall
    rw [hparent]
    obtain ⟨slashes, hcut, hslashes⟩ := trimSlashes_append (upToSlash path)
    constructor
    · intro hnil
      apply hall
      rw [hnil, List.nil_append] at hcut
      rw [hcut, List.all_eq_true]
      exact fun c hc => decide_eq_true (hslashes c hc)
    · -- What was cut off is not empty, since the text ends with a slash.
      cases slashes with
      | nil =>
        obtain ⟨before, hbefore⟩ := exists_slash_of_upToSlash hhead
        exfalso
        apply getLast?_trimSlashes (upToSlash path)
        rw [List.append_nil] at hcut
        rw [← hcut, hbefore, List.getLast?_concat]
      | cons c slashes =>
        obtain rfl : c = '/' := hslashes c List.mem_cons_self
        refine ⟨slashes ++ lastName path, ?_⟩
        conv_lhs => rw [← hpath, hcut]
        rw [List.append_assoc]
        rfl

theorem isAbsolute_of_start (h : a <+: b) (ha : a ≠ []) : isAbsolute a = isAbsolute b := by
  obtain ⟨more, rfl⟩ := h
  obtain ⟨c, a', rfl⟩ := List.exists_cons_of_ne_nil ha
  rfl

end Path

namespace FileTree

variable {t : FileTree} {r q current : Route} {name path a b : Text} {names : List Text}

theorem isLonger_of_start {limit : Nat} (h : a <+: b) (hb : isLonger limit b = false) :
    isLonger limit a = false := by
  obtain ⟨more, rfl⟩ := h
  have hgrow : ∀ (more : Text) (n : Nat), n ≤ more.foldl (fun n c => n + c.utf8Size) n := by
    intro more
    induction more with
    | nil => exact fun n => le_refl n
    | cons c more ih =>
      intro n
      exact (Nat.le_add_right n c.utf8Size).trans (ih (n + c.utf8Size))
  unfold isLonger at hb ⊢
  have hb := of_decide_eq_false hb
  rw [List.foldl_append] at hb
  have hle := hgrow more (a.foldl (fun n c => n + c.utf8Size) 0)
  apply decide_eq_false
  omega

theorem checkPath_of_start (h : a <+: b) (ha : a ≠ []) (hb : checkPath b = .ok ()) :
    checkPath a = .ok () := by
  unfold checkPath at hb ⊢
  split at hb
  · contradiction
  split at hb
  · contradiction
  next hnull =>
  split at hb
  · contradiction
  next hlong =>
  have hempty : ¬ a.isEmpty = true := by simpa using ha
  have hnull' : ¬ a.contains '\x00' = true := by
    intro hmem
    apply hnull
    rw [List.contains_iff_mem] at hmem ⊢
    exact h.subset hmem
  have hlong' : ¬ isLonger pathLimit a = true := by
    rw [isLonger_of_start h (Bool.eq_false_iff.mpr hlong)]
    exact Bool.false_ne_true
  rw [if_neg hempty, if_neg hnull', if_neg hlong']

theorem walk_append (t : FileTree) (r : Route) (names more : List Text) :
    t.walk r (names ++ more) = (t.walk r names).bind fun q => t.walk q more :=
  List.foldlM_append

/-- Only a directory can be left. -/
theorem directory_of_step (h : t.step r name = .ok q) : t.node? r = some .directory := by
  unfold step at h
  split at h
  · contradiction
  · contradiction
  · assumption

theorem directory_of_walk_cons (h : t.walk r (name :: names) = .ok q) :
    t.node? r = some .directory := by
  unfold walk at h
  rw [List.foldlM_cons] at h
  obtain ⟨r₁, hstep, -⟩ := bind_eq_ok h
  exact directory_of_step hstep

theorem route_eq_ok (h : t.route current path = .ok r) : checkPath path = .ok () ∧
    t.walk (if Path.isAbsolute path then [] else current) (Text.splitAt '/' path) = .ok r := by
  unfold route at h
  obtain ⟨⟨⟩, hcheck, hwalk⟩ := bind_eq_ok h
  exact ⟨hcheck, hwalk⟩

/-- Before a slash on the way stands a directory. -/
theorem lookUp_of_slash (h : t.route current (a ++ '/' :: b) = .ok r) (ha : a ≠ []) :
    t.lookUp current a = some .directory := by
  obtain ⟨hcheck, hwalk⟩ := route_eq_ok h
  have hprefix : a <+: a ++ '/' :: b := List.prefix_append _ _
  rw [Text.splitAt_append, walk_append, ← Path.isAbsolute_of_start hprefix ha] at hwalk
  obtain ⟨q, hq, hrest⟩ := bind_eq_ok hwalk
  have hroute : t.route current a = .ok q := by
    unfold route
    rw [checkPath_of_start hprefix ha hcheck]
    exact hq
  obtain ⟨part, more, hparts⟩ := List.exists_cons_of_ne_nil (Text.splitAt_ne_nil '/' b)
  rw [hparts] at hrest
  rw [lookUp, hroute]
  exact directory_of_walk_cons hrest

/-- Slashes alone lead to the root. -/
theorem lookUp_of_slashes (hcheck : checkPath path = .ok ()) (hpath : path ≠ [])
    (h : ∀ c ∈ path, c = '/') : t.lookUp current path = some .directory := by
  have hwalk : ∀ path : Text, (∀ c ∈ path, c = '/') →
      t.walk [] (Text.splitAt '/' path) = .ok [] := by
    intro path h
    induction path with
    | nil => rfl
    | cons c path ih =>
      obtain rfl : c = '/' := h c List.mem_cons_self
      rw [Text.splitAt_cons_self]
      exact ih fun c hc => h c (List.mem_cons_of_mem _ hc)
  have habsolute : Path.isAbsolute path = true := by
    obtain ⟨c, rest, rfl⟩ := List.exists_cons_of_ne_nil hpath
    obtain rfl : c = '/' := h c List.mem_cons_self
    rfl
  have hroute : t.route current path = .ok [] := by
    unfold route
    rw [hcheck, habsolute]
    exact hwalk path h
  rw [lookUp, hroute]
  rfl

/-- The directory of a path that leads somewhere. -/
theorem lookUp_parent (h : t.route current path = .ok r) (hparent : Path.parent path ≠ []) :
    t.lookUp current (Path.parent path) = some .directory := by
  obtain ⟨hcheck, -⟩ := route_eq_ok h
  rcases Path.parent_cases path with ⟨-, hnil⟩ | ⟨hne, hslashes, hprefix⟩ | ⟨hne, rest, hpath⟩
  · exact absurd hnil hparent
  · exact lookUp_of_slashes (checkPath_of_start hprefix hne hcheck) hne hslashes
  · rw [hpath] at h
    exact lookUp_of_slash h hne

/-- A path of one name starts in a directory. -/
theorem lookUp_dot (h : t.route current path = .ok r) (hparent : Path.parent path = []) :
    t.lookUp current ['.'] = some .directory := by
  obtain ⟨hcheck, hwalk⟩ := route_eq_ok h
  have hslash : '/' ∉ path := by
    rcases Path.parent_cases path with ⟨hslash, -⟩ | ⟨hne, -⟩ | ⟨hne, -⟩
    · exact hslash
    · exact absurd hparent hne
    · exact absurd hparent hne
  have hrelative : ¬ Path.isAbsolute path = true := by
    intro habsolute
    exact hslash (List.mem_of_head? (of_decide_eq_true habsolute))
  rw [if_neg hrelative] at hwalk
  obtain ⟨part, more, hparts⟩ := List.exists_cons_of_ne_nil (Text.splitAt_ne_nil '/' path)
  rw [hparts] at hwalk
  have hdirectory := directory_of_walk_cons hwalk
  have hstep : t.step current ['.'] = .ok current := by
    unfold step
    rw [hdirectory]
    rfl
  have hroute : t.route current ['.'] = .ok current := by
    change t.walk current [['.']] = _
    unfold walk
    rw [List.foldlM_cons, hstep]
    rfl
  rw [lookUp, hroute]
  exact hdirectory

/-- A path that stands for something leads somewhere. -/
theorem exists_route_of_lookUp {n : Node} (h : t.lookUp current path = some n) :
    ∃ r, t.route current path = .ok r := by
  unfold lookUp at h
  split at h
  · next r hroute => exact ⟨r, hroute⟩
  · contradiction

end FileTree

end Collation
