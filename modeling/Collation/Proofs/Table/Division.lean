import Collation.Proofs.Table.Segment
import Collation.Table.Window

/-! Texts are cut into units in one way only: at each place the longest declared element, or else
one character with its fallback weight. A look-up by place finds the unit that starts there. -/

namespace Collation.Table

variable {t : Table} {text : Text} {e u : Element} {us vs : List Element} {n k : Nat}

/-- The unit at the start of a text is the longest declared element there, or else the first
character. -/
def IsFirst (t : Table) (text : Text) (u : Element) : Prop :=
  (u ∈ t.elements ∧ u.text <+: text ∧
    ∀ e ∈ t.elements, e.text <+: text → e.text.length ≤ u.text.length) ∨
  ((∀ e ∈ t.elements, ¬ e.text <+: text) ∧
    ∃ c rest, text = c :: rest ∧ u = ⟨[c], t.fallback c⟩)

/-- Units in a row that make up a text and are the units at their own places. -/
structure Division (t : Table) (text : Text) (us : List Element) : Prop where
  whole : us.flatMap Element.text = text
  nonempty : ∀ u ∈ us, u.text ≠ []
  first : ∀ before u after, us = before ++ u :: after →
    t.IsFirst (text.drop (before.flatMap Element.text).length) u

theorem longest?_eq_none_iff :
    t.longest? text = none ↔ ∀ e ∈ t.elements, ¬ e.text <+: text := by
  constructor
  · intro h e he hbegins
    have hmem := mem_prefixes.mpr ⟨he, hbegins⟩
    rw [foldr_longer_eq_none h] at hmem
    contradiction
  · intro h
    cases hlongest : t.longest? text with
    | none => rfl
    | some e =>
      obtain ⟨he, hbegins, -⟩ := longest?_eq_some_iff.mp hlongest
      exact absurd hbegins (h e he)

theorem first?_eq_some_iff : t.first? text = some u ↔ t.IsFirst text u := by
  unfold first? IsFirst
  cases hlongest : t.longest? text with
  | some e =>
    have he := longest?_eq_some_iff.mp hlongest
    rw [Option.some_or, ← hlongest, longest?_eq_some_iff]
    constructor
    · exact Or.inl
    · rintro (h | ⟨hnone, -⟩)
      · exact h
      · exact absurd he.2.1 (hnone e he.1)
  | none =>
    have hnone := longest?_eq_none_iff.mp hlongest
    rw [Option.none_or]
    constructor
    · intro h
      obtain ⟨c, hc, rfl⟩ := Option.map_eq_some_iff.mp h
      obtain ⟨rest, rfl⟩ := List.head?_eq_some_iff.mp hc
      exact Or.inr ⟨hnone, c, rest, rfl, rfl⟩
    · rintro (⟨hu, hbegins, -⟩ | ⟨-, c, rest, rfl, rfl⟩)
      · exact absurd hbegins (hnone u hu)
      · rfl

theorem IsFirst.unique {v : Element} (hu : t.IsFirst text u) (hv : t.IsFirst text v) : u = v :=
  Option.some.inj ((first?_eq_some_iff.mpr hu).symm.trans (first?_eq_some_iff.mpr hv))

theorem IsFirst.text_prefix (h : t.IsFirst text u) : u.text <+: text := by
  rcases h with ⟨-, hbegins, -⟩ | ⟨-, c, rest, rfl, rfl⟩
  · exact hbegins
  · exact ⟨rest, rfl⟩

theorem exists_first (htext : text ≠ []) : ∃ u, t.IsFirst text u := by
  cases h : t.first? text with
  | some u => exact ⟨u, first?_eq_some_iff.mp h⟩
  | none =>
    rw [first?, Option.or_eq_none_iff, Option.map_eq_none_iff, List.head?_eq_none_iff] at h
    exact absurd h.2 htext

theorem division_nil : t.Division text [] ↔ text = [] := by
  constructor
  · exact fun h => h.whole.symm
  · rintro rfl
    exact ⟨rfl, by simp, by simp⟩

theorem division_cons : t.Division text (u :: us) ↔
    u.text ≠ [] ∧ t.IsFirst text u ∧ t.Division (text.drop u.text.length) us := by
  constructor
  · intro h
    have hwhole : u.text ++ us.flatMap Element.text = text := h.whole
    obtain ⟨hu, hus⟩ := List.forall_mem_cons.mp h.nonempty
    refine ⟨hu, h.first [] u us rfl, ?_, hus, ?_⟩
    · rw [← hwhole, List.drop_left]
    · intro before v after heq
      have hfirst := h.first (u :: before) v after (congrArg (u :: ·) heq)
      rwa [List.flatMap_cons, List.length_append, ← List.drop_drop] at hfirst
  · rintro ⟨hu, hfirst, hrest⟩
    refine ⟨?_, List.forall_mem_cons.mpr ⟨hu, hrest.nonempty⟩, ?_⟩
    · rw [List.flatMap_cons, hrest.whole]
      exact (List.prefix_iff_eq_append.mp hfirst.text_prefix)
    · intro before v after heq
      cases before with
      | nil =>
        obtain ⟨rfl, rfl⟩ := List.cons.inj heq
        exact hfirst
      | cons b before =>
        obtain ⟨rfl, htail⟩ := List.cons.inj heq
        rw [List.flatMap_cons, List.length_append, ← List.drop_drop]
        exact hrest.first before v after htail

theorem Division.unique (hus : t.Division text us) (hvs : t.Division text vs) : us = vs := by
  induction us generalizing text vs with
  | nil =>
    obtain rfl := division_nil.mp hus
    cases vs with
    | nil => rfl
    | cons v vs =>
      obtain ⟨hv, hfirst, -⟩ := division_cons.mp hvs
      exact absurd (List.prefix_nil.mp hfirst.text_prefix) hv
  | cons u us ih =>
    obtain ⟨hu, hfirst, hrest⟩ := division_cons.mp hus
    cases vs with
    | nil =>
      obtain rfl := division_nil.mp hvs
      exact absurd (List.prefix_nil.mp hfirst.text_prefix) hu
    | cons v vs =>
      obtain ⟨-, hfirst', hrest'⟩ := division_cons.mp hvs
      obtain rfl := hfirst.unique hfirst'
      rw [ih hrest hrest']

theorem division_segment (h : ∀ e ∈ t.elements, e.text ≠ []) (text : Text) :
    t.Division text (t.segment text) := by
  -- A unit may be longer than one character, so the induction is on the length that is left.
  induction hn : text.length using Nat.strongRecOn generalizing text with
  | ind n ih =>
    by_cases htext : text = []
    · subst htext
      rw [segment_nil]
      exact division_nil.mpr rfl
    · obtain ⟨u, hu⟩ := exists_first (t := t) htext
      have hne : u.text ≠ [] := by
        rcases hu with ⟨hmem, -, -⟩ | ⟨-, c, rest, -, rfl⟩
        · exact h u hmem
        · exact List.cons_ne_nil c []
      rw [segment_of_first? (first?_eq_some_iff.mpr hu) hne htext]
      refine division_cons.mpr ⟨hne, hu, ih _ ?_ _ rfl⟩
      have htextlength := List.length_pos_iff.mpr htext
      have hunitlength := List.length_pos_iff.mpr hne
      rw [List.length_drop]
      omega

/-! Look-up by place: the lengths of the elements are tried from the longest to the shortest. -/

theorem weight?_of_mem (he : e ∈ t.elements) : t.weight? e.text = some e.weight := by
  unfold weight?
  cases hfind : t.elements.find? (·.text = e.text) with
  | none =>
    have hnone := List.find?_eq_none.mp hfind e he
    simp at hnone
  | some f =>
    have htext : f.text = e.text := by simpa using List.find?_some hfind
    rw [element_eq_of_text_eq (List.mem_of_find?_eq_some hfind) he htext]
    rfl

theorem exists_element_of_weight? {w : Weight} (h : t.weight? text = some w) :
    ∃ e ∈ t.elements, e.text = text := by
  obtain ⟨e, hfind, -⟩ := Option.map_eq_some_iff.mp h
  exact ⟨e, List.mem_of_find?_eq_some hfind, by simpa using List.find?_some hfind⟩

theorem slice_of_le (h : n + k ≤ text.length) :
    Text.slice n (n + k) text = (text.drop n).take k := by
  have hstart : Text.place text.length n = n := by
    simp only [Text.place]
    omega
  have hstop : Text.place text.length (n + k) = n + k := by
    simp only [Text.place]
    omega
  rw [Text.slice, hstart, hstop, List.drop_take, Nat.add_sub_cancel_left]

theorem at?_eq_head? (text : Text) (n : Nat) : Text.at? n text = (text.drop n).head? := by
  rw [Text.at?, if_neg (by omega), Int.toNat_natCast, List.head?_drop]

/-- The lengths of elements that can stand at a place, the longest first. -/
def fittingLengths (t : Table) (text : Text) (n : Nat) : List Nat :=
  t.lengths.filter fun (k : Nat) => decide (Int.ofNat k ≤ text.length - (n : Int))

theorem mem_fittingLengths :
    k ∈ t.fittingLengths text n ↔ (∃ e ∈ t.elements, e.text.length = k) ∧ n + k ≤ text.length := by
  rw [fittingLengths, List.mem_filter, lengths, List.mem_mergeSort, List.mem_eraseDups,
    List.mem_map, decide_eq_true_iff]
  have hfits : Int.ofNat k ≤ text.length - (n : Int) ↔ n + k ≤ text.length := by
    rw [Int.ofNat_eq_natCast]
    omega
  rw [hfits]

theorem pairwise_fittingLengths (t : Table) (text : Text) (n : Nat) :
    (t.fittingLengths text n).Pairwise fun a b => b ≤ a := by
  have htrans : ∀ a b c : Nat, decide (b ≤ a) = true → decide (c ≤ b) = true →
      decide (c ≤ a) = true := by
    simpa using fun a b c hba hcb => Nat.le_trans hcb hba
  have htotal : ∀ a b : Nat, (decide (b ≤ a) || decide (a ≤ b)) = true := by
    simpa using fun a b => Nat.le_total b a
  have hsorted := List.pairwise_mergeSort htrans htotal (t.elements.map (·.text.length)).eraseDups
  exact (hsorted.imp of_decide_eq_true).filter _

/-- The weight of a declared element of length `k` at a place. -/
def weightAt? (t : Table) (text : Text) (n k : Nat) : Option (Weight × Nat) :=
  (t.weight? (Text.slice n (n + k) text)).map fun w => (w, k)

theorem weightAt?_of_prefix (he : e ∈ t.elements) (hbegins : e.text <+: text.drop n)
    (hn : n ≤ text.length) :
    t.weightAt? text n e.text.length = some (e.weight, e.text.length) := by
  have hlength := hbegins.length_le
  rw [List.length_drop] at hlength
  have htake : (text.drop n).take e.text.length = e.text :=
    (List.prefix_iff_eq_take.mp hbegins).symm
  rw [weightAt?, slice_of_le (by omega), htake, weight?_of_mem he]
  rfl

theorem exists_prefix_of_weightAt? (hk : n + k ≤ text.length) (h : t.weightAt? text n k ≠ none) :
    ∃ e ∈ t.elements, e.text <+: text.drop n ∧ e.text.length = k := by
  obtain ⟨found, hfound⟩ := Option.ne_none_iff_exists'.mp h
  obtain ⟨w, hw, -⟩ := Option.map_eq_some_iff.mp hfound
  rw [slice_of_le hk] at hw
  obtain ⟨e, he, htext⟩ := exists_element_of_weight? hw
  refine ⟨e, he, ?_, ?_⟩
  · rw [htext]
    exact List.take_prefix k (text.drop n)
  · rw [htext, List.length_take, List.length_drop]
    omega

theorem findSome?_weightAt? (hn : n ≤ text.length) :
    (t.fittingLengths text n).findSome? (t.weightAt? text n) =
      (t.longest? (text.drop n)).map fun e => (e.weight, e.text.length) := by
  cases hlongest : t.longest? (text.drop n) with
  | none =>
    have hnone := longest?_eq_none_iff.mp hlongest
    rw [Option.map_none, List.findSome?_eq_none_iff]
    intro k hk
    by_contra h
    obtain ⟨e, he, hbegins, -⟩ := exists_prefix_of_weightAt? (mem_fittingLengths.mp hk).2 h
    exact hnone e he hbegins
  | some e =>
    obtain ⟨he, hbegins, hmax⟩ := longest?_eq_some_iff.mp hlongest
    have hlength := hbegins.length_le
    rw [List.length_drop] at hlength
    have hmem : e.text.length ∈ t.fittingLengths text n :=
      mem_fittingLengths.mpr ⟨⟨e, he, rfl⟩, by omega⟩
    obtain ⟨longer, shorter, hsplit, hnew⟩ := List.eq_append_cons_of_mem hmem
    refine List.findSome?_eq_some_iff.mpr
      ⟨longer, e.text.length, shorter, hsplit, weightAt?_of_prefix he hbegins hn, ?_⟩
    -- A length before that of the longest element is greater, so no element of it stands here.
    intro k hk
    by_contra h
    have hfits : k ∈ t.fittingLengths text n := by simp [hsplit, hk]
    obtain ⟨f, hf, hfbegins, hflength⟩ :=
      exists_prefix_of_weightAt? (mem_fittingLengths.mp hfits).2 h
    have hle := hmax f hf hfbegins
    have hsorted := pairwise_fittingLengths t text n
    rw [hsplit, List.pairwise_append] at hsorted
    have hge := hsorted.2.2 k hk e.text.length List.mem_cons_self
    have heq : k = e.text.length := by omega
    exact hnew (heq ▸ hk)

theorem matchAt?_eq_first? (hn : n ≤ text.length) :
    t.matchAt? text n = (t.first? (text.drop n)).map fun u => (u.weight, u.text.length) := by
  have hfound := findSome?_weightAt? (t := t) hn
  have hmatch : t.matchAt? text n = ((t.fittingLengths text n).findSome? (t.weightAt? text n)).or
      ((Text.at? n text).map fun c => (t.fallback c, 1)) := rfl
  rw [hmatch, hfound, at?_eq_head?, first?]
  cases t.longest? (text.drop n) with
  | some e => rfl
  | none => cases (text.drop n).head? <;> rfl

/-- Under a table without an empty element, a text is cut into units in exactly one way, a look-up
at the place of each unit finds its weight and its length, and the text's weights are theirs. -/
theorem weigh_unique_division (h : ∀ e ∈ t.elements, e.text ≠ []) (text : Text) :
    ∃ us, t.Division text us ∧ t.weigh text = us.map Element.weight ∧
      (∀ before u after, us = before ++ u :: after →
        t.matchAt? text (before.flatMap Element.text).length = some (u.weight, u.text.length)) ∧
      ∀ vs, t.Division text vs → vs = us := by
  have hdivision := division_segment h text
  refine ⟨t.segment text, hdivision, rfl, ?_, fun vs hvs => hvs.unique hdivision⟩
  intro before u after heq
  have hplace : (before.flatMap Element.text).length ≤ text.length := by
    rw [← hdivision.whole, heq, List.flatMap_append, List.length_append]
    omega
  rw [matchAt?_eq_first? hplace, first?_eq_some_iff.mpr (hdivision.first before u after heq)]
  rfl

/-- Elements that are the beginnings of one another, and one that starts inside another. -/
def overlapping : Table :=
  ⟨[⟨['a'], ⟨0, 0, 0⟩⟩, ⟨['a', 'b'], ⟨1, 0, 0⟩⟩, ⟨['a', 'b', 'c', 'd'], ⟨2, 0, 0⟩⟩,
    ⟨['b', 'c'], ⟨3, 0, 0⟩⟩], by decide⟩

theorem weigh_unique_division_overlapping :
    (∀ e ∈ overlapping.elements, e.text ≠ []) ∧
    ∃ us, overlapping.Division "abcabd" us ∧
      us.map Element.weight = [⟨1, 0, 0⟩, ⟨103, 0, 0⟩, ⟨1, 0, 0⟩, ⟨104, 0, 0⟩] := by
  have hne : ∀ e ∈ overlapping.elements, e.text ≠ [] := by decide
  obtain ⟨us, hdivision, hweigh, -, -⟩ := weigh_unique_division hne "abcabd"
  exact ⟨hne, us, hdivision, hweigh.symm.trans (by decide +kernel)⟩

end Collation.Table
