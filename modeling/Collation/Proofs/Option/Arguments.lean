import Collation.Option.Arguments

/-! The division of a command line into positional arguments and groups. There is one division in
which option keys stand at the starts of groups and nowhere else, and splitting finds it. -/

namespace Collation

/-- What starts a group: an argument that starts with two hyphens, or the short request for help. -/
def StartsGroup (argument : Text) : Prop :=
  "--".toList <+: argument ∨ argument = "-h"

/-- An option key and the arguments after it, none of which is a key. -/
inductive IsGroup : List Text → Prop
  | opened {key : Text} {rest : List Text} (hkey : StartsGroup key)
      (hrest : ∀ a ∈ rest, ¬StartsGroup a) : IsGroup (key :: rest)

/-- Arguments divided so that the option keys are the first words of the groups. -/
structure Divided (arguments positional : List Text) (groups : List (List Text)) : Prop where
  whole : positional ++ groups.flatten = arguments
  before : ∀ a ∈ positional, ¬StartsGroup a
  started : ∀ g ∈ groups, IsGroup g

/-- The key of a group and its arguments, as they stand on the command line. -/
def ArgumentGroup.words (g : ArgumentGroup) : List Text :=
  g.key :: g.arguments

variable {a key : Text} {arguments positional rest : List Text} {groups : List (List Text)}

theorem isOptionKey_iff (a : Text) : isOptionKey a = true ↔ StartsGroup a := by
  rw [isOptionKey, Bool.or_eq_true, List.isPrefixOf_iff_prefix, decide_eq_true_eq]
  rfl

theorem splitArguments_key (h : StartsGroup key) (rest : List Text) :
    splitArguments (key :: rest) = ⟨[], ⟨key, (splitArguments rest).positional⟩ ::
      (splitArguments rest).groups⟩ := by
  rw [splitArguments]
  exact if_pos ((isOptionKey_iff key).mpr h)

theorem splitArguments_other (h : ¬StartsGroup a) (rest : List Text) :
    splitArguments (a :: rest) = ⟨a :: (splitArguments rest).positional,
      (splitArguments rest).groups⟩ := by
  rw [splitArguments]
  exact if_neg (mt (isOptionKey_iff a).mp h)

/-- A key takes what stands before the first group as its arguments. -/
theorem Divided.cons_key (h : Divided arguments positional groups) (hkey : StartsGroup key) :
    Divided (key :: arguments) [] ((key :: positional) :: groups) where
  whole := by rw [List.nil_append, List.flatten_cons, List.cons_append, h.whole]
  before := List.forall_mem_nil _
  started := List.forall_mem_cons.mpr ⟨.opened hkey h.before, h.started⟩

theorem Divided.cons_other (h : Divided arguments positional groups) (ha : ¬StartsGroup a) :
    Divided (a :: arguments) (a :: positional) groups where
  whole := by rw [List.cons_append, h.whole]
  before := List.forall_mem_cons.mpr ⟨ha, h.before⟩
  started := h.started

theorem divided_splitArguments (arguments : List Text) :
    Divided arguments (splitArguments arguments).positional
      ((splitArguments arguments).groups.map ArgumentGroup.words) := by
  induction arguments with
  | nil => exact ⟨rfl, List.forall_mem_nil _, List.forall_mem_nil _⟩
  | cons a rest ih =>
    by_cases ha : StartsGroup a
    · rw [splitArguments_key ha]
      exact ih.cons_key ha
    · rw [splitArguments_other ha]
      exact ih.cons_other ha

/-- Arguments that are no keys stay in front of what the rest comes to. -/
theorem splitArguments_append_of_no_key (h : ∀ a ∈ positional, ¬StartsGroup a)
    (rest : List Text) : splitArguments (positional ++ rest) =
      ⟨positional ++ (splitArguments rest).positional, (splitArguments rest).groups⟩ := by
  induction positional with
  | nil => rfl
  | cons a positional ih =>
    obtain ⟨ha, hrest⟩ := List.forall_mem_cons.mp h
    rw [List.cons_append, splitArguments_other ha, ih hrest]
    rfl

/-- Groups that are put one after the other are found again. -/
theorem splitArguments_flatten (h : ∀ g ∈ groups, IsGroup g) :
    (splitArguments groups.flatten).positional = [] ∧
      (splitArguments groups.flatten).groups.map ArgumentGroup.words = groups := by
  induction groups with
  | nil => exact ⟨rfl, rfl⟩
  | cons g groups ih =>
    obtain ⟨hg, hgroups⟩ := List.forall_mem_cons.mp h
    obtain ⟨hpositional, hfound⟩ := ih hgroups
    cases hg with
    | @opened key rest hkey hrest =>
      rw [List.flatten_cons, List.cons_append, splitArguments_key hkey,
        splitArguments_append_of_no_key hrest, hpositional, List.append_nil]
      exact ⟨rfl, congrArg ((key :: rest) :: ·) hfound⟩

/-- Splitting gives the one division of the arguments: the positional ones and the words of the
groups, one after the other, are the arguments again, and the option keys among them are the first
words of the groups. -/
theorem splitArguments_only_division (arguments positional : List Text)
    (groups : List (List Text)) :
    Divided arguments positional groups ↔
      positional = (splitArguments arguments).positional ∧
        groups = (splitArguments arguments).groups.map ArgumentGroup.words := by
  constructor
  · rintro ⟨rfl, hbefore, hstarted⟩
    obtain ⟨hpositional, hfound⟩ := splitArguments_flatten hstarted
    rw [splitArguments_append_of_no_key hbefore, hpositional, List.append_nil]
    exact ⟨rfl, hfound.symm⟩
  · rintro ⟨rfl, rfl⟩
    exact divided_splitArguments arguments

/-- Keys that are first, last and next to each other. -/
example : splitArguments ["-h", "--a", "b", "-x", "--"] =
    ⟨[], [⟨"-h", []⟩, ⟨"--a", ["b", "-x"]⟩, ⟨"--", []⟩]⟩ := by
  decide

end Collation
