import Collation.Proofs.Run.Log

/-! How a single stream of a machine stands. What is written to other streams, and the closing of other
streams, leave it as it is. -/

namespace Collation

/-- What comes to a stream: a line is offered to it, or it is closed. -/
inductive Arrival where
  | line (t : Text)
  | closing
  deriving DecidableEq, Repr

def Arrival.line? : Arrival → Option Text
  | line t => some t
  | closing => none

/-- What comes to a stream that nothing closes is lines. -/
theorem Arrival.map_filterMap_line {arrivals : List Arrival} (h : .closing ∉ arrivals) :
    (arrivals.filterMap Arrival.line?).map Arrival.line = arrivals := by
  induction arrivals with
  | nil => rfl
  | cons arrival arrivals ih =>
    obtain ⟨harrival, harrivals⟩ := not_or.mp (mt List.mem_cons.mpr h)
    cases arrival with
    | line t => exact congrArg (Arrival.line t :: ·) (ih harrivals)
    | closing => exact absurd rfl harrival

namespace OpenStream

def after (o : OpenStream) : Arrival → OpenStream
  | .line t => o.write t
  | .closing => o.close

/-- A stream that is open takes all that it is offered, although it may fail to pass it on. -/
def IsWilling (o : OpenStream) : Prop :=
  o.isClosed = false ∧ ∀ n count cause, o.faults n ≠ some (.onWrite count cause)

/-- A stream that was closed, and holds nothing. -/
def IsShut (o : OpenStream) : Prop :=
  o.isClosed = true ∧ o.held = []

variable {o : OpenStream}

theorem isShut_close (o : OpenStream) : o.close.IsShut :=
  ⟨rfl, rfl⟩

theorem IsShut.write (h : o.IsShut) (t : Text) : (o.write t).IsShut := by
  rw [write_of_isClosed h.1]
  exact h

theorem IsShut.close_eq (h : o.IsShut) : o.close = o := by
  obtain ⟨sink, isClosed, tries, faults, taken, held⟩ := o
  obtain ⟨rfl, rfl⟩ := h
  rfl

/-- Nothing that comes to a stream makes it fail. -/
theorem IsSound.foldl_after (h : o.IsSound) (arrivals : List Arrival) :
    (arrivals.foldl after o).IsSound := by
  induction arrivals generalizing o with
  | nil => exact h
  | cons arrival arrivals ih =>
    cases arrival with
    | line t => exact ih (h.write t)
    | closing => exact ih h.close

theorem IsShut.foldl_after (h : o.IsShut) (arrivals : List Arrival) :
    (arrivals.foldl after o).IsShut := by
  induction arrivals generalizing o with
  | nil => exact h
  | cons arrival arrivals ih =>
    cases arrival with
    | line t => exact ih (h.write t)
    | closing => exact ih (isShut_close o)

/-- Streams stay open as long as nothing closes them, and closed for ever after. -/
theorem isClosed_foldl_after (arrivals : List Arrival) (o : OpenStream) :
    (arrivals.foldl after o).isClosed = true ↔ o.isClosed = true ∨ .closing ∈ arrivals := by
  induction arrivals generalizing o with
  | nil => simp
  | cons arrival arrivals ih =>
    rw [List.foldl_cons, ih]
    cases arrival with
    | line t => simp [after, isClosed_write]
    | closing => simp [after, close]

theorem IsWilling.line (h : o.IsWilling) (t : Text) :
    (o.write t).IsWilling ∧ (o.write t).taken = o.taken ++ t := by
  have hfault : o.fault? = o.faults o.tries := by
    rw [fault?, h.1]
    rfl
  cases hnext : o.faults o.tries with
  | none =>
    rw [write_of_fault?_none (hfault.trans hnext)]
    exact ⟨h, rfl⟩
  | some f =>
    rw [write_of_fault? (hfault.trans hnext)]
    cases f with
    | onFlush cause => exact ⟨h, rfl⟩
    | onWrite count cause => exact absurd hnext (h.2 _ count cause)

theorem IsWilling.taken_lines (h : o.IsWilling) (lines : List Text) :
    ((lines.map Arrival.line).foldl after o).taken = o.taken ++ lines.flatten := by
  induction lines generalizing o with
  | nil => exact (List.append_nil _).symm
  | cons line lines ih =>
    obtain ⟨hwilling, htaken⟩ := h.line line
    rw [List.map_cons, List.foldl_cons, after, ih hwilling, htaken, List.flatten_cons,
      List.append_assoc]

end OpenStream

namespace Machine

variable {stream other : Stream} {streams : List Stream} {s : Machine}

/-! Everything that is done to one stream. -/

theorem stream?_pass (sink : Sink) (t : Text) (s : Machine) (stream : Stream) :
    (s.pass sink t).stream? stream = s.stream? stream := by
  unfold pass
  split
  · rfl
  · split
    · rfl
    · cases stream <;> rfl

/-- A file in another state. No other stream changes. -/
theorem stream?_set {n : Nat} {o o' : OpenStream} (ho : s.streams[n]? = some o) (stream : Stream) :
    { s with streams := s.streams.set n o' }.stream? stream =
      if stream = .file n then some o' else s.stream? stream := by
  cases stream with
  | output | messages => rfl
  | file k =>
    have hn := (List.getElem?_eq_some_iff.mp ho).1
    change (s.streams.set n o')[k]? = _
    by_cases hk : k = n
    · subst hk
      rw [if_pos rfl, List.getElem?_set_self hn]
    · rw [if_neg fun h => hk (Stream.file.inj h), List.getElem?_set_ne (Ne.symm hk)]
      rfl

theorem stream?_write (s : Machine) (other stream : Stream) (t : Text) :
    (s.write other t).2.stream? stream =
      if stream = other then (s.stream? stream).map (·.write t) else s.stream? stream := by
  cases other with
  | output | messages => cases stream <;> rfl
  | file n =>
    change (s.writeFile n t).2.stream? stream = _
    unfold writeFile
    split
    · next hnone =>
      split
      · next hstream =>
        subst hstream
        change s.streams[n]? = (s.streams[n]?).map _
        rw [hnone]
        rfl
      · rfl
    · next o ho =>
      rw [stream?_pass, stream?_set ho]
      split
      · next hstream =>
        subst hstream
        exact (congrArg (Option.map (·.write t)) ho).symm
      · rfl

theorem stream?_close (s : Machine) (other stream : Stream) :
    (s.close other).2.stream? stream =
      if stream = other then (s.stream? stream).map OpenStream.close else s.stream? stream := by
  cases other with
  | output | messages => cases stream <;> rfl
  | file n =>
    change (s.closeFile n).2.stream? stream = _
    unfold closeFile
    split
    · next hnone =>
      split
      · next hstream =>
        subst hstream
        change s.streams[n]? = (s.streams[n]?).map _
        rw [hnone]
        rfl
      · rfl
    · next o ho =>
      rw [stream?_pass, stream?_set ho]
      split
      · next hstream =>
        subst hstream
        exact (congrArg (Option.map OpenStream.close) ho).symm
      · rfl

/-- Closing a stream goes as it does for that stream alone. -/
theorem close_fst (s : Machine) (stream : Stream) :
    (s.close stream).1 = ((s.stream? stream).map OpenStream.closingAnswer).getD (.ok ()) := by
  cases stream with
  | output | messages => rfl
  | file n =>
    change (s.closeFile n).1 = ((s.streams[n]?).map _).getD _
    unfold closeFile
    split
    · next hnone => rw [hnone]; rfl
    · next o ho => rw [ho]; rfl

theorem stampText_write (s : Machine) (stream : Stream) (t : Text) :
    (s.write stream t).2.stampText = s.stampText := by
  cases stream with
  | output | messages => rfl
  | file n => exact stampText_of_shown (s.shown_writeFile n t)

theorem stampText_close (s : Machine) (stream : Stream) :
    (s.close stream).2.stampText = s.stampText := by
  cases stream with
  | output | messages => rfl
  | file n => exact stampText_of_shown (s.shown_closeFile n)

/-! Everything that is done to streams one after the other. -/

/-- A line that is offered to streams comes to each of them, and to no other. -/
theorem stream?_tell (hstreams : streams.Nodup) (line : Text) (s : Machine) (stream : Stream) :
    (s.tell line streams).stream? stream =
      if stream ∈ streams then (s.stream? stream).map (·.write line) else s.stream? stream := by
  induction streams generalizing s with
  | nil => rfl
  | cons first streams ih =>
    obtain ⟨hfirst, hrest⟩ := List.nodup_cons.mp hstreams
    have htell : (s.tell line (first :: streams)).stream? stream =
        ((s.write first line).2.tell line streams).stream? stream := rfl
    rw [htell, ih hrest, stream?_write]
    by_cases hstream : stream = first
    · subst hstream
      rw [if_neg hfirst, if_pos rfl, if_pos List.mem_cons_self]
    · rw [if_neg hstream]
      simp only [List.mem_cons, hstream, false_or]

/-- The streams that are closed one after the other: all up to the first that does not close well. -/
def reached : List Stream → Machine → List Stream
  | [], _ => []
  | first :: rest, s =>
    match (s.close first).1 with
    | .ok _ => first :: reached rest (s.close first).2
    | .error _ => [first]

theorem reached_subset (streams : List Stream) (s : Machine) : s.reached streams ⊆ streams := by
  induction streams generalizing s with
  | nil => exact List.Subset.refl _
  | cons first rest ih =>
    rw [reached]
    split
    · exact List.cons_subset_cons _ (ih _)
    · exact List.cons_subset_cons _ (List.nil_subset _)

/-- Streams may come more than once among those to close. -/
theorem stream?_upTo_close (streams : List Stream) (s : Machine) (stream : Stream) :
    (upTo close streams s).2.stream? stream =
      if stream ∈ s.reached streams then (s.stream? stream).map OpenStream.close
      else s.stream? stream := by
  induction streams generalizing s with
  | nil => rfl
  | cons first rest ih =>
    rw [upTo, reached]
    cases (s.close first).1 with
    | error cause =>
      simp only [List.mem_singleton]
      exact s.stream?_close first stream
    | ok v =>
      dsimp only
      rw [ih, stream?_close]
      by_cases hstream : stream = first
      · subst hstream
        -- it makes no difference whether the stream comes again among the rest
        have htwice : ((s.stream? stream).map OpenStream.close).map OpenStream.close =
            (s.stream? stream).map OpenStream.close := by
          rw [Option.map_map]
          rfl
        rw [if_pos rfl, if_pos List.mem_cons_self, htwice, ite_self]
      · rw [if_neg hstream]
        simp only [List.mem_cons, hstream, false_or]

/-- Whether each of some streams takes what it is given. -/
def AllSound (s : Machine) (streams : List Stream) : Prop :=
  ∀ stream ∈ streams, ∀ o ∈ s.stream? stream, o.IsSound

theorem AllSound.of_arrivals {t : Machine} (h : s.AllSound streams)
    (hkept : ∀ stream, ∃ arrivals : List Arrival,
      t.stream? stream = (s.stream? stream).map (arrivals.foldl OpenStream.after)) :
    t.AllSound streams := by
  intro stream hstream o ho
  obtain ⟨arrivals, harrivals⟩ := hkept stream
  rw [harrivals] at ho
  obtain ⟨o', ho', rfl⟩ := Option.map_eq_some_iff.mp ho
  exact (h stream hstream o' ho').foldl_after arrivals

/-- A stream is closed if those before it take what they are given. -/
theorem mem_reached (hstream : stream ∈ streams)
    (hbefore : s.AllSound (streams.takeWhile (· ≠ stream))) : stream ∈ s.reached streams := by
  induction streams generalizing s with
  | nil => cases hstream
  | cons first rest ih =>
    rw [reached]
    by_cases hfirst : stream = first
    · subst hfirst
      split <;> exact List.mem_cons_self
    · have hrest : stream ∈ rest := (List.mem_cons.mp hstream).resolve_left hfirst
      rw [List.takeWhile_cons_of_pos (by simpa using Ne.symm hfirst)] at hbefore
      have hok : (s.close first).1 = .ok () := by
        rw [close_fst]
        cases hopen : s.stream? first with
        | none => rfl
        | some o => exact (hbefore first List.mem_cons_self o hopen).closingAnswer
      rw [hok]
      refine List.mem_cons_of_mem _ (ih hrest ?_)
      refine AllSound.of_arrivals (fun other hother => hbefore other (List.mem_cons_of_mem _ hother))
        fun other => ?_
      rw [stream?_close]
      split
      · exact ⟨[.closing], rfl⟩
      · exact ⟨[], Option.map_id'.symm⟩

theorem stampText_tell (s : Machine) (line : Text) (streams : List Stream) :
    (s.tell line streams).stampText = s.stampText := by
  induction streams generalizing s with
  | nil => rfl
  | cons first streams ih => exact (ih _).trans (s.stampText_write first line)

theorem stampText_upTo_close (s : Machine) (streams : List Stream) :
    (upTo close streams s).2.stampText = s.stampText :=
  upTo_induction (P := fun t => t.stampText = s.stampText)
    (fun stream _ t ht => (t.stampText_close stream).trans ht) rfl

end Machine

end Collation
