import Collation.Host.Machine

/-! A stream on its own. It takes texts one after the other, in whole or in part, until it is closed. -/

namespace Collation

/-- A stream that takes all that it is given while it is open, and holds nothing back. -/
structure OpenStream.IsSound (o : OpenStream) : Prop where
  faults : ∀ n, o.faults n = none
  held : o.held = []

/-- The reason for which a full disk takes nothing. -/
def StreamCause.diskFull : StreamCause :=
  .system 28 "No space left on device"

namespace OpenStream

variable {o : OpenStream}

theorem fault?_of_isClosed (h : o.isClosed = true) : o.fault? = some (.onWrite 0 .closed) := by
  rw [fault?, h]
  rfl

theorem write_of_fault? {f : StreamFault} (h : o.fault? = some f) (t : Text) :
    o.write t = { o with
      tries := o.tries + 1
      taken := o.taken ++ f.part t
      held := o.held ++ f.part t } := by
  rw [OpenStream.write, h]

theorem write_of_fault?_none (h : o.fault? = none) (t : Text) :
    o.write t = { o with tries := o.tries + 1, taken := o.taken ++ t, held := [] } := by
  rw [OpenStream.write, h]

/-- A closed stream takes nothing. -/
theorem write_of_isClosed (h : o.isClosed = true) (t : Text) :
    o.write t = { o with tries := o.tries + 1 } := by
  rw [write_of_fault? (fault?_of_isClosed h)]
  simp [StreamFault.part]

theorem isClosed_write (o : OpenStream) (t : Text) : (o.write t).isClosed = o.isClosed := by
  unfold OpenStream.write
  split <;> rfl

theorem taken_prefix_write (o : OpenStream) (t : Text) : o.taken <+: (o.write t).taken := by
  unfold OpenStream.write
  split
  · exact List.prefix_append _ _
  · exact List.prefix_append _ _

theorem taken_write_of_ok (h : o.answer = .ok ()) (t : Text) :
    (o.write t).taken = o.taken ++ t := by
  unfold answer at h
  cases hfault : o.fault? with
  | none => rw [write_of_fault?_none hfault]
  | some f =>
    rw [hfault] at h
    cases h

theorem isSound_new (sink : Sink) {faults : Nat → Option StreamFault} (h : ∀ n, faults n = none) :
    (new sink faults).IsSound :=
  ⟨h, rfl⟩

theorem IsSound.write (h : o.IsSound) (t : Text) : (o.write t).IsSound := by
  cases hclosed : o.isClosed with
  | true =>
    rw [write_of_isClosed hclosed]
    exact ⟨h.faults, h.held⟩
  | false =>
    have hfault : o.fault? = none := by
      rw [fault?, hclosed, if_neg Bool.false_ne_true, h.faults]
    rw [write_of_fault?_none hfault]
    exact ⟨h.faults, rfl⟩

theorem IsSound.close (h : o.IsSound) : o.close.IsSound :=
  ⟨h.faults, rfl⟩

theorem IsSound.answer (h : o.IsSound) (hopen : o.isClosed = false) : o.answer = .ok () := by
  rw [OpenStream.answer, fault?, hopen, if_neg Bool.false_ne_true, h.faults]

theorem IsSound.closingAnswer (h : o.IsSound) : o.closingAnswer = .ok () := by
  rw [OpenStream.closingAnswer, closingCause?, h.held, h.faults]
  simp

end OpenStream

end Collation
