import Collation.Proofs.Option.Action

/-! Requests for help on a command line. A request counts wherever it stands, unless something before
it cannot be read. -/

namespace Collation

/-- The arguments that ask for help. What follows an equals sign does not matter. -/
def AsksHelp (argument : Text) : Prop :=
  argument = "-h" ∨ argument = "--help" ∨ ∃ more : Text, argument = "--help=" ++ more

variable {key script text : Text} {first : List Text}

theorem AsksHelp.isOptionKey (h : AsksHelp key) : isOptionKey key = true := by
  rcases h with rfl | rfl | ⟨more, rfl⟩
  · decide
  · decide
  · rfl

theorem AsksHelp.cut (h : AsksHelp key) :
    (Text.cut '=' key).1 = "-h" ∨ (Text.cut '=' key).1 = "--help" := by
  rcases h with rfl | rfl | ⟨more, rfl⟩
  · exact Or.inl (by decide)
  · exact Or.inr (by decide)
  · exact Or.inr rfl

/-- A key starts a new group, so that the arguments before it are split as they are on their own. -/
theorem splitArguments_append (hkey : isOptionKey key = true) (first rest : List Text) :
    splitArguments (first ++ key :: rest) = ⟨(splitArguments first).positional,
      (splitArguments first).groups ++ ⟨key, (splitArguments rest).positional⟩ ::
        (splitArguments rest).groups⟩ := by
  induction first with
  | nil =>
    rw [List.nil_append, splitArguments]
    exact if_pos hkey
  | cons a first ih =>
    rw [List.cons_append, splitArguments, ih, splitArguments]
    by_cases ha : isOptionKey a = true
    · rw [if_pos ha, if_pos ha]
      rfl
    · rw [if_neg ha, if_neg ha]

namespace OptionStore

variable {o : OptionStore} {g : ArgumentGroup} {before : List ArgumentGroup}

theorem group_of_asksHelp (h : AsksHelp g.key) (htext : o.help script = .ok text) :
    o.group script g = .error (.help text) := by
  have hasked : (decide ((Text.cut '=' g.key).1 = "-h") ||
      decide ((Text.cut '=' g.key).1 = "--help")) = true := by
    rw [Bool.or_eq_true, decide_eq_true_eq, decide_eq_true_eq]
    exact h.cut
  unfold group
  dsimp only
  rw [if_pos hasked, htext]

/-- Whatever is read before a request, the first request is met with the same help text. -/
theorem mapM_group_of_help (htext : o.help script = .ok text)
    (hbefore : ∀ b ∈ before, ∀ e, o.group script b ≠ .error (.failure e))
    (hg : o.group script g = .error (.help text)) (after : List ArgumentGroup) :
    (before ++ g :: after).mapM (o.group script) = .error (.help text) := by
  induction before with
  | nil =>
    rw [List.nil_append, List.mapM_cons, hg]
    rfl
  | cons b before ih =>
    obtain ⟨hb, hrest⟩ := List.forall_mem_cons.mp hbefore
    rw [List.cons_append, List.mapM_cons, ih hrest]
    cases hread : o.group script b with
    | ok value => rfl
    | error stop =>
      cases stops_of_group hread with
      | help _ htext' =>
        rw [htext] at htext'
        obtain rfl := Except.ok.inj htext'
        rfl
      | unknown _ => exact absurd hread (hb _)
      | unfit _ _ => exact absurd hread (hb _)

theorem parse_of_asksHelp (hkey : AsksHelp key) (htext : o.help script = .ok text)
    (hbefore : ∀ g ∈ (splitArguments first).groups, ∀ e, o.group script g ≠ .error (.failure e))
    (rest : List Text) : o.parse (script :: (first ++ key :: rest)) = .error (.help text) := by
  have hg := group_of_asksHelp (g := ⟨key, (splitArguments rest).positional⟩) hkey htext
  have hread := mapM_group_of_help htext hbefore hg (splitArguments rest).groups
  unfold parse
  dsimp only [List.headD_cons, List.tail_cons]
  rw [splitArguments_append hkey.isOptionKey, hread]
  rfl

end OptionStore

end Collation
