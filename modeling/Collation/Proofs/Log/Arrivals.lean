import Mathlib.Data.List.Forall2
import Collation.Proofs.Log.Calls

/-! What comes to a stream in the course of a run. Every message comes to every stream as one line, and a
closing to the streams that are closed up to the first that does not close well. -/

namespace Collation.Logger

open Machine

/-- What a call brings to a stream. -/
def Call.brings (l : Logger) (s : Machine) (stream : Stream) : Call → List Arrival
  | .clock _ => []
  | .log message =>
    if stream ∈ l.streams then ((l.lineAt? s.stampText message).map Arrival.line).toList else []
  | .close => if stream ∈ s.reached l.owned then [.closing] else []

/-- What calls bring to a stream, one after the other. -/
def arrivals (l : Logger) (s : Machine) (stream : Stream) : List Call → List Arrival
  | [] => []
  | c :: calls => c.brings l s stream ++ arrivals (c.next l s) (c.act l s) stream calls

/-- The lines of calls, none of which depends on a stream. -/
def linesFor (l : Logger) (now : Text) : List Call → List Text
  | [] => []
  | .clock later :: calls => linesFor l later calls
  | .log message :: calls => (l.lineAt? now message).toList ++ linesFor (l.told message) now calls
  | .close :: calls => linesFor l now calls

/-- A line shows a message, or the mark in its place, after a stamp of some time. -/
def Shows (l : Logger) (message line : Text) : Prop :=
  ∃ now stamp shown, l.stampAt? now = some stamp ∧ line = stamp ++ shown ++ ['\n'] ∧
    (shown = message ∨ l.repeatMark = some shown)

/-- What a call can come to. Only stamps that cannot be written keep a message from the streams, and
a closing tells what went wrong with a stream. -/
def Call.Answers (l : Logger) : Call → Except Failure Unit → Prop
  | .clock _, answer => answer = .ok ()
  | .log _, answer => answer = if l.stamp = .invalid then .error .nullFormat else .ok ()
  | .close, answer => answer = .ok () ∨ ∃ cause, answer = .error (.stream cause)

/-- Every closing that is to close a stream comes to it. -/
def Clears (l : Logger) (s : Machine) (stream : Stream) : List Call → Prop
  | [] => True
  | c :: calls =>
    (c = .close → stream ∈ l.owned → stream ∈ s.reached l.owned) ∧
      Clears (c.next l s) (c.act l s) stream calls

variable {l : Logger} {s t : Machine} {stream : Stream} {message : Text}

theorem streams_told (l : Logger) (message : Text) : (l.told message).streams = l.streams := by
  unfold told
  split <;> rfl

theorem owned_told (l : Logger) (message : Text) : (l.told message).owned = l.owned := by
  unfold told
  split <;> rfl

theorem streams_next (c : Call) (l : Logger) (s : Machine) :
    (c.next l s).streams = l.streams := by
  cases c with
  | clock now => rfl
  | log message => exact l.streams_told message
  | close =>
    unfold Call.next
    dsimp only
    split <;> rfl

theorem next_close_eq (l : Logger) (s : Machine) :
    ∃ owned, Call.close.next l s = { l with owned := owned } := by
  unfold Call.next
  dsimp only
  split
  · exact ⟨[], rfl⟩
  · exact ⟨l.owned, rfl⟩

theorem owned_next (c : Call) (l : Logger) (s : Machine) :
    (c.next l s).owned = [] ∨ (c.next l s).owned = l.owned := by
  cases c with
  | clock now => exact Or.inr rfl
  | log message => exact Or.inr (l.owned_told message)
  | close =>
    unfold Call.next
    dsimp only
    split
    · exact Or.inl rfl
    · exact Or.inr rfl

theorem owned_next_subset (c : Call) (l : Logger) (s : Machine) :
    (c.next l s).owned ⊆ l.owned := by
  rcases owned_next c l s with hnil | hsame
  · rw [hnil]
    exact List.nil_subset _
  · rw [hsame]
    exact List.Subset.refl _

/-! What comes to a stream, and what it becomes. -/

/-- A call changes a stream by what it brings to it, whatever it does elsewhere. -/
theorem stream?_act (c : Call) (hstreams : l.streams.Nodup) (s : Machine) (stream : Stream) :
    (c.act l s).stream? stream =
      (s.stream? stream).map ((c.brings l s stream).foldl OpenStream.after) := by
  cases c with
  | clock now => cases stream <;> exact Option.map_id'.symm
  | log message =>
    rw [Call.brings]
    cases hline : l.lineAt? s.stampText message with
    | none =>
      rw [Call.act_log_of_none hline, Option.map_none, Option.toList_none, ite_self]
      exact Option.map_id'.symm
    | some line =>
      rw [Call.act_log_of_some hline, stream?_tell hstreams]
      split
      · rfl
      · exact Option.map_id'.symm
  | close =>
    rw [Call.act, Call.brings, stream?_upTo_close]
    split
    · rfl
    · exact Option.map_id'.symm

theorem stream?_runCalls (calls : List Call) (hstreams : l.streams.Nodup) (s : Machine)
    (stream : Stream) :
    ((l.runCalls calls).run s).2.stream? stream =
      (s.stream? stream).map ((l.arrivals s stream calls).foldl OpenStream.after) := by
  induction calls generalizing l s with
  | nil => exact Option.map_id'.symm
  | cons c calls ih =>
    have hnext : (c.next l s).streams.Nodup := by rwa [streams_next]
    rw [runCalls_cons]
    dsimp only
    rw [ih hnext, stream?_act c hstreams, arrivals, Option.map_map]
    refine congrFun (congrArg Option.map (funext fun o => ?_)) _
    exact (List.foldl_append ..).symm

theorem stampText_act_log (message : Text) (l : Logger) (s : Machine) :
    ((Call.log message).act l s).stampText = s.stampText := by
  cases hline : l.lineAt? s.stampText message with
  | none => rw [Call.act_log_of_none hline]
  | some line => rw [Call.act_log_of_some hline, stampText_tell]

theorem linesFor_owned (calls : List Call) (l : Logger) (owned : List Stream) (now : Text) :
    { l with owned := owned }.linesFor now calls = l.linesFor now calls := by
  induction calls generalizing l now with
  | nil => rfl
  | cons c calls ih =>
    cases c with
    | clock later => exact ih l later
    | close => exact ih l now
    | log message =>
      have htold : { l with owned := owned }.told message = { l.told message with owned := owned } := by
        change (if l.stamp = .invalid then _ else _) = _
        unfold told
        split <;> rfl
      rw [linesFor, linesFor, htold, ih]
      rfl

/-- The lines that come to a stream are the same for all of them. -/
theorem filterMap_arrivals (calls : List Call) (h : stream ∈ l.streams) (s : Machine) :
    (l.arrivals s stream calls).filterMap Arrival.line? = l.linesFor s.stampText calls := by
  induction calls generalizing l s with
  | nil => rfl
  | cons c calls ih =>
    have hnext : stream ∈ (c.next l s).streams := by rwa [streams_next]
    rw [arrivals, List.filterMap_append, ih hnext]
    cases c with
    | clock later => rfl
    | log message =>
      rw [stampText_act_log, linesFor, Call.brings, if_pos h, Call.next]
      cases l.lineAt? s.stampText message <;> rfl
    | close =>
      have hnone : (Call.close.brings l s stream).filterMap Arrival.line? = [] := by
        rw [Call.brings]
        split <;> rfl
      rw [hnone, List.nil_append, linesFor, Call.act, stampText_upTo_close, Call.next]
      split
      · exact linesFor_owned calls l [] _
      · rfl

theorem shows_lineAt? {now line : Text} (h : l.lineAt? now message = some line) :
    l.Shows message line := by
  obtain ⟨stamp, hstamp, rfl⟩ := Option.map_eq_some_iff.mp h
  refine ⟨now, stamp, _, hstamp, rfl, ?_⟩
  cases hmark : l.repeatMark with
  | none => exact Or.inl rfl
  | some mark =>
    rw [shorten]
    split
    · exact Or.inr rfl
    · exact Or.inl rfl

theorem shows_linesFor (calls : List Call) (hstamp : l.stamp ≠ .invalid) (now : Text) :
    List.Forall₂ l.Shows (calls.filterMap Call.message?) (l.linesFor now calls) := by
  suffices h : ∀ last, List.Forall₂ l.Shows (calls.filterMap Call.message?)
      ({ l with last := last }.linesFor now calls) from h l.last
  intro last
  induction calls generalizing last now with
  | nil => exact .nil
  | cons c calls ih =>
    cases c with
    | clock later => exact ih later last
    | close => exact ih now last
    | log message =>
      have htold : { l with last := last }.told message =
        { l with last := (shorten l.repeatMark last message).2 } := if_neg hstamp
      rw [linesFor, htold]
      cases hline : { l with last := last }.lineAt? now message with
      | none =>
        have hnone := Option.map_eq_none_iff.mp hline
        exact absurd (stampAt?_eq_none.mp hnone) hstamp
      | some line =>
        have hshows : { l with last := last }.Shows message line := shows_lineAt? hline
        exact .cons hshows (ih now _)

theorem linesFor_of_invalid (calls : List Call) (hstamp : l.stamp = .invalid) (now : Text) :
    l.linesFor now calls = [] := by
  induction calls generalizing now with
  | nil => rfl
  | cons c calls ih =>
    cases c with
    | clock later => exact ih later
    | close => exact ih now
    | log message =>
      rw [linesFor, told, if_pos hstamp, ih, lineAt?, stampAt?_eq_none.mpr hstamp]
      rfl

/-! Closings come to streams that are to be closed, and to all of them if none before fails. -/

theorem of_closing_mem_arrivals (calls : List Call) (h : .closing ∈ l.arrivals s stream calls) :
    stream ∈ l.owned ∧ .close ∈ calls := by
  induction calls generalizing l s with
  | nil => cases h
  | cons c calls ih =>
    rcases List.mem_append.mp h with hfirst | hrest
    · cases c with
      | clock now => cases hfirst
      | log message =>
        rw [Call.brings] at hfirst
        split at hfirst
        · cases hline : l.lineAt? s.stampText message <;> simp [hline] at hfirst
        · cases hfirst
      | close =>
        rw [Call.brings] at hfirst
        split at hfirst
        · next hreached => exact ⟨reached_subset _ _ hreached, List.mem_cons_self⟩
        · cases hfirst
    · obtain ⟨howned, hclose⟩ := ih hrest
      exact ⟨owned_next_subset c l s howned, List.mem_cons_of_mem _ hclose⟩

/-- Streams that never fail let every closing pass. -/
theorem clears_of_allSound (calls : List Call) (hstreams : l.streams.Nodup)
    (h : stream ∈ l.owned → s.AllSound (l.owned.takeWhile (· ≠ stream))) :
    l.Clears s stream calls := by
  induction calls generalizing l s with
  | nil => trivial
  | cons c calls ih =>
    refine ⟨fun _ howned => mem_reached howned (h howned), ih (by rwa [streams_next]) ?_⟩
    intro hstream
    rcases owned_next c l s with hnil | hsame
    · rw [hnil] at hstream
      cases hstream
    · rw [hsame] at hstream ⊢
      exact (h hstream).of_arrivals fun other => ⟨_, stream?_act c hstreams s other⟩

theorem closing_mem_arrivals (calls : List Call) (hclears : l.Clears s stream calls)
    (howned : stream ∈ l.owned) (hclose : .close ∈ calls) :
    .closing ∈ l.arrivals s stream calls := by
  induction calls generalizing l s with
  | nil => cases hclose
  | cons c calls ih =>
    obtain ⟨hreached, hrest⟩ := hclears
    cases c with
    | close =>
      refine List.mem_append_left _ ?_
      rw [Call.brings, if_pos (hreached rfl howned)]
      exact List.mem_singleton_self _
    | clock now =>
      exact List.mem_append_right _ (ih hrest howned (by simpa using hclose))
    | log message =>
      have hkept : stream ∈ ((Call.log message).next l s).owned := by
        rw [Call.next, owned_told]
        exact howned
      exact List.mem_append_right _ (ih hrest hkept (by simpa using hclose))

theorem arrivals_of_not_owned (calls : List Call) (hstream : stream ∈ l.streams)
    (howned : stream ∉ l.owned) (s : Machine) :
    l.arrivals s stream calls = (l.linesFor s.stampText calls).map Arrival.line := by
  have hclosing : .closing ∉ l.arrivals s stream calls :=
    fun h => howned (of_closing_mem_arrivals calls h).1
  rw [← filterMap_arrivals calls hstream, Arrival.map_filterMap_line hclosing]

/-! What calls come to. -/

theorem answers_answer (c : Call) (l : Logger) (s : Machine) : c.Answers l (c.answer l s) := by
  cases c with
  | clock now => rfl
  | log message => rfl
  | close =>
    change (_ : Except Failure Unit) = _ ∨ ∃ cause, (_ : Except Failure Unit) = _
    rw [Call.answer]
    cases (Machine.upTo Machine.close l.owned s).1 with
    | ok v => exact Or.inl rfl
    | error cause => exact Or.inr ⟨cause, rfl⟩

theorem stamp_next (c : Call) (l : Logger) (s : Machine) : (c.next l s).stamp = l.stamp := by
  cases c with
  | clock now => rfl
  | log message =>
    change (l.told message).stamp = l.stamp
    unfold told
    split <;> rfl
  | close =>
    obtain ⟨owned, h⟩ := next_close_eq l s
    rw [h]

theorem answers_runCalls (calls : List Call) (l : Logger) (s : Machine) :
    List.Forall₂ (Call.Answers l) calls ((l.runCalls calls).run s).1.1 := by
  suffices h : ∀ k : Logger, k.stamp = l.stamp →
      List.Forall₂ (Call.Answers l) calls ((k.runCalls calls).run s).1.1 from h l rfl
  induction calls generalizing s with
  | nil => exact fun _ _ => .nil
  | cons c calls ih =>
    intro k hk
    rw [runCalls_cons]
    refine .cons ?_ (ih _ _ ((stamp_next c k s).trans hk))
    have hanswer := answers_answer c k s
    cases c with
    | clock now => exact hanswer
    | log message =>
      change _ = if l.stamp = .invalid then _ else _
      rw [← hk]
      exact hanswer
    | close => exact hanswer

end Collation.Logger
