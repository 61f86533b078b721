import Collation.App
import Collation.Proofs.Result

/-! Failures of the parts of an application. Whatever reads options, settings, configuration files
or rules fails with failures that have a message of their own. -/

namespace Collation

/-- Whether a failure has a message of this program: it is not raised by name, and is not the end of
a run that shows the help text. -/
def Failure.isTold : Failure → Bool
  | raised _ _ | helpShown => false
  | _ => true

/-- Whatever its code, a failure of the system belongs to the family of these. -/
theorem Family.isA_ofSystemCode (code : Int) : (ofSystemCode code).isA .system = true := by
  unfold ofSystemCode
  extract_lets table
  cases h : table.lookup code with
  | none => decide
  | some f =>
    obtain ⟨before, after, htable, -⟩ := List.lookup_eq_some_iff.mp h
    have hmem : (code, f) ∈ table := htable ▸ List.mem_append_right _ List.mem_cons_self
    have hall : ∀ p ∈ table, p.2.isA .system = true := by decide
    exact hall (code, f) hmem

theorem Failure.message?_of_isTold {e : Failure} (he : e.isTold = true) :
    e.message? = some e.message := by
  cases e with
  | raised f vs => cases he
  | _ => rfl

variable {α β ε : Type}

/-- Nothing fails but with a message. -/
def Tells (r : Except Failure α) : Prop :=
  ∀ e, r = .error e → e.isTold = true

theorem tells_ok (v : α) : Tells (.ok v : Except Failure α) :=
  nofun

theorem tells_error {e : Failure} (he : e.isTold = true) : Tells (.error e : Except Failure α) := by
  rintro e' ⟨⟩
  exact he

theorem tells_bind {r : Except Failure α} {f : α → Except Failure β} (hr : Tells r)
    (hf : ∀ v, Tells (f v)) : Tells (r >>= f) := by
  cases r with
  | ok v => exact hf v
  | error e => exact tells_error (hr e rfl)

theorem tells_map {r : Except Failure α} (g : α → β) (hr : Tells r) : Tells (r.map g) := by
  cases r with
  | ok v => exact tells_ok _
  | error e => exact tells_error (hr e rfl)

theorem tells_mapError {r : Except ε α} {g : ε → Failure} (hg : ∀ e, (g e).isTold = true) :
    Tells (r.mapError g) := by
  cases r with
  | ok v => exact tells_ok v
  | error e => exact tells_error (hg e)

theorem tells_mapM {f : α → Except Failure β} (hf : ∀ x, Tells (f x)) (xs : List α) :
    Tells (xs.mapM f) := by
  intro e h
  obtain ⟨_, x, _, _, -, -, hx⟩ := mapM_eq_error h
  exact hf x e hx

theorem tells_readInteger (t : Text) : Tells (Setting.readInteger t) := by
  unfold Setting.readInteger Setting.readIntegerIn
  split
  · exact tells_ok _
  · exact tells_error rfl
  · exact tells_error rfl

theorem Strength.tells_ofValue (v : Value) : Tells (ofValue v) := by
  cases v with
  | int n =>
    unfold ofValue
    dsimp only
    split
    · exact tells_ok _
    · exact tells_error rfl
  | _ => exact tells_error rfl

theorem Strength.tells_ofSetting (v : Value) : Tells (ofSetting v) := by
  unfold ofSetting
  split
  · dsimp only
    split
    · exact tells_ok _
    · split
      · exact tells_error rfl
      · exact tells_bind (tells_readInteger _) fun n => tells_ofValue _
  · exact tells_ofValue _

namespace Config

theorem tells_evaluate (setting : Text) : Tells (evaluate setting) := by
  unfold evaluate
  split
  · exact tells_ok _
  all_goals exact tells_error rfl

theorem Layout.tells_values (l : Layout) : Tells l.values :=
  tells_mapM (fun _ => tells_bind
    (tells_mapM (fun _ => tells_bind (tells_evaluate _) fun _ => tells_ok _) _)
    fun _ => tells_ok _) _

theorem tells_read (path : Text) (bs : List UInt8) : Tells (read path bs) := by
  refine tells_bind (tells_mapError fun _ => rfl) fun (lines, fault) => ?_
  refine tells_bind (tells_mapError fun _ => rfl) fun r => ?_
  cases fault with
  | some e => exact tells_error rfl
  | none => exact tells_bind (tells_mapError fun _ => rfl) fun l => l.tells_values

end Config

namespace OptionKind

theorem tells_convertOne (kind : OptionKind) (t : Text) : Tells (kind.convertOne t) := by
  cases kind with
  | text | bool => exact tells_ok _
  | int => exact tells_map _ (tells_readInteger t)
  | float =>
    refine tells_map _ ?_
    unfold readFloat
    split
    · exact tells_ok _
    · exact tells_error rfl
  | complex =>
    change Tells (readComplex t)
    unfold readComplex
    split
    · exact tells_ok _
    · exact tells_error rfl
    · exact tells_error rfl
  | dict =>
    change Tells (readDict t)
    unfold readDict
    split
    · exact tells_ok _
    · exact tells_error rfl
  | list | tuple | set | other name => exact tells_error rfl

theorem tells_convert (kind : OptionKind) (key : Text) (arguments : List Text) :
    Tells (kind.convert key arguments) := by
  unfold convert
  split
  · exact tells_ok _
  · exact tells_ok _
  · exact tells_ok _
  · exact tells_convertOne _ _
  · exact tells_error rfl

end OptionKind

namespace OptionStore

variable (o : OptionStore)

theorem tells_get (name : Text) : Tells (o.get name) := by
  unfold get
  split
  · exact tells_ok _
  · exact tells_error rfl

theorem tells_form : Tells o.form := by
  refine tells_bind (o.tells_get _) fun v => ?_
  generalize (if v.isTruthy then Text.upperAscii (Text.strip v.plain) else []) = name
  dsimp only
  split
  · exact tells_ok _
  · split
    · exact tells_ok _
    · exact tells_error rfl

theorem tells_strength : Tells o.strength :=
  tells_bind (o.tells_get _) fun _ => Strength.tells_ofSetting _

theorem tells_help (script : Text) : Tells (o.help script) := by
  unfold help Help.text
  split
  · exact tells_error rfl
  · exact tells_ok _

theorem told_of_group {script : Text} {g : ArgumentGroup} {e : Failure}
    (h : o.group script g = .error (.failure e)) : e.isTold = true := by
  unfold group at h
  dsimp only at h
  split at h
  · cases hhelp : o.help script with
    | ok t =>
      rw [hhelp] at h
      cases h
    | error e' =>
      rw [hhelp] at h
      obtain rfl := Stop.failure.inj (Except.error.inj h)
      exact o.tells_help script _ hhelp
  · split at h
    · obtain rfl := Stop.failure.inj (Except.error.inj h)
      rfl
    · rename_i name spec _
      cases hvalue : spec.kind.convert spec.key ((Text.cut '=' g.key).2.toList ++ g.arguments) with
      | ok v =>
        rw [hvalue] at h
        cases h
      | error e' =>
        rw [hvalue] at h
        obtain rfl := Stop.failure.inj (Except.error.inj h)
        exact OptionKind.tells_convert _ _ _ _ hvalue

theorem told_of_parse {argv : List Text} {e : Failure}
    (h : o.parse argv = .error (.failure e)) : e.isTold = true := by
  unfold parse at h
  dsimp only at h
  cases hread : (splitArguments argv.tail).groups.mapM (o.group (argv.headD [])) with
  | ok read =>
    rw [hread] at h
    cases h
  | error stop =>
    rw [hread] at h
    obtain rfl := Except.error.inj h
    obtain ⟨_, g, _, _, -, -, hg⟩ := mapM_eq_error hread
    exact o.told_of_group hg

end OptionStore

theorem App.tells_tailoringOf (form : Option Form) (v : Value) : Tells (tailoringOf form v) := by
  unfold tailoringOf
  split
  · exact tells_mapError fun _ => rfl
  · split <;> exact tells_error rfl
  · exact tells_error rfl

end Collation
