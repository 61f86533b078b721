import Collation.File.Tree
import Collation.Proofs.Lookup
import Collation.Proofs.Result

/-! File trees that grow. Directories stay, files get longer at their ends, and so what could be
reached can still be reached. -/

namespace Collation.FileTree

/-- Directories and files of the first tree are such in the second, whatever the files hold. -/
structure Keeps (t u : FileTree) : Prop where
  directory {r : Route} (h : t.node? r = some .directory) : u.node? r = some .directory
  file {r : Route} {content : List UInt8} (h : t.node? r = some (.file content)) :
    ∃ content', u.node? r = some (.file content')

/-- Everything stands in the second tree that stands in the first, and files may go on there. -/
structure Extends (t u : FileTree) : Prop where
  directory {r : Route} (h : t.node? r = some .directory) : u.node? r = some .directory
  file {r : Route} {content : List UInt8} (h : t.node? r = some (.file content)) :
    ∃ more, u.node? r = some (.file (content ++ more))

variable {t u v : FileTree} {r q current : Route} {n : Node} {name path : Text} {names : List Text}
  {content more : List UInt8}

theorem extends_refl (t : FileTree) : t.Extends t :=
  ⟨id, fun {_ content} h => ⟨[], by rw [h, List.append_nil]⟩⟩

theorem Extends.keeps (h : t.Extends u) : t.Keeps u := by
  refine ⟨h.directory, fun hfile => ?_⟩
  obtain ⟨more, hmore⟩ := h.file hfile
  exact ⟨_, hmore⟩

theorem Keeps.trans (h : t.Keeps u) (h' : u.Keeps v) : t.Keeps v := by
  constructor
  · intro r hr
    exact h'.directory (h.directory hr)
  · intro r content hr
    obtain ⟨content', hcontent⟩ := h.file hr
    exact h'.file hcontent

theorem Extends.trans (h : t.Extends u) (h' : u.Extends v) : t.Extends v := by
  constructor
  · intro r hr
    exact h'.directory (h.directory hr)
  · intro r content hr
    obtain ⟨more, hmore⟩ := h.file hr
    obtain ⟨more', hmore'⟩ := h'.file hmore
    exact ⟨more ++ more', by rw [hmore', List.append_assoc]⟩

/-! What an operation changes. -/

theorem node?_of_ne_nil (t : FileTree) (hr : r ≠ []) : t.node? r = t.nodes.lookup r := by
  rw [node?, if_neg (by simpa using hr), lookup_eq_find?]

theorem node?_put (t : FileTree) (hr : r ≠ []) (n : Node) (q : Route) :
    (t.put r n).node? q = if q = r then some n else t.node? q := by
  by_cases hq : q = []
  · subst hq
    rw [if_neg (Ne.symm hr)]
    rfl
  · have hset := lookup_set t.nodes r q n
    rw [node?_of_ne_nil _ hq, node?_of_ne_nil _ hq, put, node?_of_ne_nil _ hr, ← hset]
    split <;> rfl

/-- Nothing can be put at the root in place of its directory. -/
theorem ne_nil_of_node? (h : t.node? r ≠ some .directory) : r ≠ [] := by
  rintro rfl
  exact h rfl

theorem extends_put_new (h : t.node? r = none) (n : Node) : t.Extends (t.put r n) := by
  have hr : r ≠ [] := ne_nil_of_node? (by rw [h]; exact nofun)
  have hother : ∀ q, t.node? q ≠ none → (t.put r n).node? q = t.node? q := by
    intro q hq
    rw [node?_put t hr, if_neg]
    rintro rfl
    exact hq h
  constructor
  · intro q hq
    rw [hother q (by rw [hq]; exact nofun), hq]
  · intro q content hq
    refine ⟨[], ?_⟩
    rw [hother q (by rw [hq]; exact nofun), hq, List.append_nil]

theorem extends_append (t : FileTree) (r : Route) (more : List UInt8) :
    t.Extends (t.append r more) := by
  unfold append
  split
  · next content hfile =>
    have hr : r ≠ [] := ne_nil_of_node? (by rw [hfile]; exact nofun)
    constructor
    · intro q hq
      rw [node?_put t hr, if_neg]
      · exact hq
      · rintro rfl
        exact absurd (hfile.symm.trans hq) (by simp)
    · intro q content' hq
      rw [node?_put t hr]
      by_cases hqr : q = r
      · subst hqr
        rw [hfile] at hq
        obtain rfl : content = content' := Node.file.inj (Option.some.inj hq)
        exact ⟨more, if_pos rfl⟩
      · rw [if_neg hqr]
        exact ⟨[], by rw [hq, List.append_nil]⟩
  · exact extends_refl t

theorem extends_makeDirectory (h : t.makeDirectory current path = .ok u) : t.Extends u := by
  unfold makeDirectory at h
  obtain ⟨-, -, h⟩ := bind_eq_ok h
  extract_lets trimmed at h
  split at h
  · contradiction
  · obtain ⟨r, -, h⟩ := bind_eq_ok h
    split at h
    · contradiction
    · next hnew =>
      obtain rfl := Except.ok.inj h
      exact extends_put_new hnew _

/-- What a file is that has been found or made. -/
theorem openEnd_eq_ok (h : t.openEnd current path = .ok (r, u)) :
    t.Extends u ∧ checkPath path = .ok () ∧ path.getLast? ≠ some '/' ∧
      t.route current path = .ok r ∧ ∃ content, u.node? r = some (.file content) := by
  unfold openEnd at h
  obtain ⟨⟨⟩, hcheck, h⟩ := bind_eq_ok h
  split at h
  · obtain ⟨-, -, h⟩ := bind_eq_ok h
    contradiction
  · next hlast =>
    obtain ⟨q, hroute, h⟩ := bind_eq_ok h
    split at h
    · contradiction
    · next content hfile =>
      obtain ⟨rfl, rfl⟩ := Prod.mk.inj (Except.ok.inj h)
      exact ⟨extends_refl t, hcheck, hlast, hroute, content, hfile⟩
    · next hnew =>
      obtain ⟨rfl, rfl⟩ := Prod.mk.inj (Except.ok.inj h)
      have hr : q ≠ [] := ne_nil_of_node? (by rw [hnew]; exact nofun)
      refine ⟨extends_put_new hnew _, hcheck, hlast, hroute, [], ?_⟩
      rw [node?_put t hr, if_pos rfl]

/-! What could be reached can still be reached. -/

theorem Keeps.step (h : t.Keeps u) (hstep : t.step r name = .ok q) : u.step r name = .ok q := by
  unfold FileTree.step at hstep ⊢
  split at hstep
  · contradiction
  · contradiction
  · next hdirectory =>
    rw [h.directory hdirectory]
    exact hstep

theorem Keeps.walk (h : t.Keeps u) (hwalk : t.walk r names = .ok q) :
    u.walk r names = .ok q := by
  unfold FileTree.walk at hwalk ⊢
  induction names generalizing r with
  | nil => exact hwalk
  | cons name names ih =>
    rw [List.foldlM_cons] at hwalk ⊢
    obtain ⟨r₁, hstep, hrest⟩ := bind_eq_ok hwalk
    rw [h.step hstep]
    exact ih hrest

theorem Keeps.route (h : t.Keeps u) (hroute : t.route current path = .ok r) :
    u.route current path = .ok r := by
  unfold FileTree.route at hroute ⊢
  obtain ⟨⟨⟩, hcheck, hwalk⟩ := bind_eq_ok hroute
  rw [hcheck]
  exact h.walk hwalk

theorem Extends.read (h : t.Extends u) (hread : t.read current path = .ok content) :
    ∃ more, u.read current path = .ok (content ++ more) := by
  unfold FileTree.read at hread ⊢
  obtain ⟨r, hroute, hnode⟩ := bind_eq_ok hread
  split at hnode
  · contradiction
  · contradiction
  · next content' hfile =>
    obtain rfl := Except.ok.inj hnode
    obtain ⟨more, hmore⟩ := h.file hfile
    refine ⟨more, ?_⟩
    rw [h.keeps.route hroute]
    change (pure r >>= _) = _
    rw [pure_bind, hmore]

/-- A file that is the same at the start and at the end was the same at any time between. -/
theorem Extends.read_between (h : t.Extends u) (h' : u.Extends v)
    (ht : t.read current path = .ok content) (hsame : v.read current path = t.read current path) :
    u.read current path = .ok content := by
  obtain ⟨more, hmore⟩ := h.read ht
  obtain ⟨more', hmore'⟩ := h'.read hmore
  have hcontent : content = content ++ more ++ more' :=
    Except.ok.inj ((hsame.trans ht).symm.trans hmore')
  have hnil : more = [] := by
    have hlength := congrArg List.length hcontent
    rw [List.length_append, List.length_append] at hlength
    exact List.length_eq_zero_iff.mp (by omega)
  rw [hmore, hnil, List.append_nil]

theorem Extends.read_before (h : t.Extends u) (h' : u.Extends v)
    (hu : u.read current path = .ok content) (hsame : v.read current path = t.read current path) :
    t.read current path = .ok content := by
  obtain ⟨more, hmore⟩ := h'.read hu
  have ht : t.read current path = .ok (content ++ more) := hsame.symm.trans hmore
  exact ht.trans ((h.read_between h' ht hsame).symm.trans hu)

end Collation.FileTree
