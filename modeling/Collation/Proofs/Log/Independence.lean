import Mathlib.Data.List.TakeWhile
import Collation.Proofs.Log.Arrivals

/-! How far the streams of a logger influence one another. Every message comes to every stream as one
line, whatever the others do. But a closing stops at the first stream that does not close well, so that
the streams after it stay open and go on taking lines. -/

namespace Collation.Logger

open Machine

/-- The logger with one stream, and with streams to close. -/
def alone (l : Logger) (stream : Stream) (owned : List Stream) : Logger :=
  { l with streams := [stream], owned := owned }

/-- The logger whose only stream is one of those of `l`, which it closes if `l` does. -/
def only (l : Logger) (stream : Stream) : Logger :=
  l.alone stream (l.owned.filter (· = stream))

variable {l k : Logger} {s t : Machine} {stream : Stream}

theorem told_alone (l : Logger) (stream : Stream) (owned : List Stream) (message : Text) :
    (l.alone stream owned).told message = (l.told message).alone stream owned := by
  change (if l.stamp = .invalid then l.alone stream owned else _) = _
  unfold told
  split <;> rfl

theorem Call.stream?_act_close_of_isShut (h : ∀ o ∈ s.stream? stream, o.IsShut) :
    (Call.close.act l s).stream? stream = s.stream? stream := by
  rw [Call.act, stream?_upTo_close]
  split
  · cases hopen : s.stream? stream with
    | none => rfl
    | some o => exact congrArg some (h o hopen).close_eq
  · rfl

/-! The run of a logger, and the run of one of its streams alone. -/

/-- Two loggers that keep a stream in the same state, where the second one has no other stream. Either
both are to close it or none is, or it was closed before. -/
structure Beside (stream : Stream) (l : Logger) (s : Machine) (k : Logger) (t : Machine) : Prop where
  logger : k = l.alone stream k.owned
  self : ∀ other ∈ k.owned, other = stream
  closes : (stream ∈ k.owned ↔ stream ∈ l.owned) ∨ ∀ o ∈ s.stream? stream, o.IsShut
  stampText : t.stampText = s.stampText
  same : t.stream? stream = s.stream? stream

theorem beside_only (hstamp : t.stampText = s.stampText)
    (hsame : t.stream? stream = s.stream? stream) : Beside stream l s (l.only stream) t := by
  have hmem : ∀ other, other ∈ (l.only stream).owned ↔ other ∈ l.owned ∧ other = stream := by
    intro other
    simp [only, alone]
  exact ⟨rfl, fun other h => ((hmem other).mp h).2, Or.inl (by simp [hmem]), hstamp, hsame⟩

namespace Beside

theorem nodup (h : Beside stream l s k t) : k.streams.Nodup := by
  rw [h.logger]
  exact List.pairwise_singleton _ stream

theorem mem_reached (h : Beside stream l s k t) (howned : stream ∈ k.owned) :
    stream ∈ t.reached k.owned := by
  refine Machine.mem_reached howned fun other hother => ?_
  have hne : other ≠ stream := by simpa using List.mem_takeWhile_imp hother
  exact absurd (h.self other ((List.takeWhile_prefix _).subset hother)) hne

/-- A line comes to both, and a closing as well, unless it comes too late to change the stream. -/
theorem stream?_act (h : Beside stream l s k t) (hstreams : l.streams.Nodup)
    (hstream : stream ∈ l.streams) (c : Call)
    (hreached : c = .close → stream ∈ l.owned → stream ∈ s.reached l.owned) :
    (c.act k t).stream? stream = (c.act l s).stream? stream := by
  have hbrought : c.brings k t stream = c.brings l s stream →
      (c.act k t).stream? stream = (c.act l s).stream? stream := by
    intro hbrings
    rw [Logger.stream?_act c h.nodup, Logger.stream?_act c hstreams, hbrings, h.same]
  cases c with
  | clock now => exact hbrought rfl
  | log message =>
    refine hbrought ?_
    have hline : k.lineAt? t.stampText message = l.lineAt? s.stampText message := by
      rw [h.logger, h.stampText]
      rfl
    have hone : stream ∈ k.streams := by
      rw [h.logger]
      exact List.mem_singleton_self stream
    rw [Call.brings, Call.brings, hline, if_pos hone, if_pos hstream]
  | close =>
    rcases h.closes with howned | hshut
    · refine hbrought ?_
      have hboth : stream ∈ t.reached k.owned ↔ stream ∈ s.reached l.owned := by
        constructor
        · exact fun hmem => hreached rfl (howned.mp (reached_subset _ _ hmem))
        · exact fun hmem => h.mem_reached (howned.mpr (reached_subset _ _ hmem))
      rw [Call.brings, Call.brings]
      simp only [hboth]
    · rw [Call.stream?_act_close_of_isShut hshut, Call.stream?_act_close_of_isShut, h.same]
      rw [h.same]
      exact hshut

theorem act (h : Beside stream l s k t) (hstreams : l.streams.Nodup) (hstream : stream ∈ l.streams)
    (c : Call) (hreached : c = .close → stream ∈ l.owned → stream ∈ s.reached l.owned) :
    Beside stream (c.next l s) (c.act l s) (c.next k t) (c.act k t) := by
  have hsame := h.stream?_act hstreams hstream c hreached
  have hself : ∀ other ∈ (c.next k t).owned, other = stream :=
    fun other hother => h.self other (owned_next_subset c k t hother)
  have hshut : (∀ o ∈ s.stream? stream, o.IsShut) → ∀ o ∈ (c.act l s).stream? stream, o.IsShut := by
    intro hbefore o ho
    rw [Logger.stream?_act c hstreams] at ho
    obtain ⟨o', ho', rfl⟩ := Option.map_eq_some_iff.mp ho
    exact (hbefore o' ho').foldl_after _
  cases c with
  | clock now => exact ⟨h.logger, hself, h.closes.imp_right hshut, rfl, hsame⟩
  | log message =>
    refine ⟨?_, hself, ?_, ?_, hsame⟩
    · change k.told message = (l.told message).alone stream (k.told message).owned
      rw [owned_told, ← told_alone, ← h.logger]
    · change (stream ∈ (k.told message).owned ↔ stream ∈ (l.told message).owned) ∨ _
      rw [owned_told, owned_told]
      exact h.closes.imp_right hshut
    · rw [stampText_act_log, stampText_act_log, h.stampText]
  | close =>
    refine ⟨?_, hself, ?_, ?_, hsame⟩
    · obtain ⟨owned, hl⟩ := next_close_eq l s
      obtain ⟨owned', hk⟩ := next_close_eq k t
      rw [hl, hk]
      exact congrArg (fun k : Logger => { k with owned := owned' }) h.logger
    · by_cases howned : stream ∈ l.owned
      · refine Or.inr fun o ho => ?_
        rw [Call.act, stream?_upTo_close, if_pos (hreached rfl howned)] at ho
        obtain ⟨o', -, rfl⟩ := Option.map_eq_some_iff.mp ho
        exact OpenStream.isShut_close o'
      · rcases h.closes with hboth | hbefore
        · have hk : stream ∉ k.owned := fun hmem => howned (hboth.mp hmem)
          exact Or.inl (iff_of_false (fun hmem => hk (owned_next_subset _ k t hmem))
            fun hmem => howned (owned_next_subset _ l s hmem))
        · exact Or.inr (hshut hbefore)
    · rw [Call.act, Call.act, stampText_upTo_close, stampText_upTo_close, h.stampText]

/-- The runs of both keep the stream in the same state. -/
theorem stream?_runCalls (h : Beside stream l s k t) (hstreams : l.streams.Nodup)
    (hstream : stream ∈ l.streams) (calls : List Call) (hclears : l.Clears s stream calls) :
    ((k.runCalls calls).run t).2.stream? stream = ((l.runCalls calls).run s).2.stream? stream := by
  induction calls generalizing l s k t with
  | nil => exact h.same
  | cons c calls ih =>
    obtain ⟨hreached, hrest⟩ := hclears
    rw [runCalls_cons, runCalls_cons]
    exact ih (h.act hstreams hstream c hreached) (by rwa [streams_next]) (by rwa [streams_next]) hrest

end Beside

/-- How far the streams of a logger influence one another. Over pairwise different streams, and
however they fail when they are written to, no message fails, unless the logger has stamps that cannot
be written. Each stream is offered one line for every message, in order, and what came to it is all
that has changed it. It is closed by the closings that come to it, which are those of streams that were
opened for the logger. A stream that was not opened for it takes all lines if it takes what it is
offered. A stream to which every closing comes stands as if it were the only one, and it is closed with
the logger, on any machine where it stood the same before. So does every stream that was not opened
for the logger, and any other if no stream that is closed before it ever fails. -/
theorem runCalls_independent (hstreams : l.streams.Nodup) (calls : List Call) (s : Machine) :
    let final := (l.runCalls calls).run s
    let lines := l.linesFor s.stampText calls
    List.Forall₂ (Call.Answers l) calls final.1.1 ∧
    (l.stamp = .invalid → lines = []) ∧
    (l.stamp ≠ .invalid → List.Forall₂ l.Shows (calls.filterMap Call.message?) lines) ∧
    ∀ stream ∈ l.streams,
      let arrivals := l.arrivals s stream calls
      arrivals.filterMap Arrival.line? = lines ∧
      final.2.stream? stream = (s.stream? stream).map (arrivals.foldl OpenStream.after) ∧
      (∀ o ∈ s.stream? stream, ∃ o' ∈ final.2.stream? stream,
        (o'.isClosed = true ↔ o.isClosed = true ∨ .closing ∈ arrivals)) ∧
      (.closing ∈ arrivals → stream ∈ l.owned ∧ .close ∈ calls) ∧
      (stream ∉ l.owned → arrivals = lines.map Arrival.line ∧
        ∀ o ∈ s.stream? stream, o.IsWilling →
          ∃ o' ∈ final.2.stream? stream, o'.taken = o.taken ++ lines.flatten) ∧
      (l.Clears s stream calls →
        (.closing ∈ arrivals ↔ stream ∈ l.owned ∧ .close ∈ calls) ∧
        ∀ t : Machine, t.stampText = s.stampText → t.stream? stream = s.stream? stream →
          (((l.only stream).runCalls calls).run t).2.stream? stream = final.2.stream? stream) ∧
      ((stream ∈ l.owned → s.AllSound (l.owned.takeWhile (· ≠ stream))) →
        l.Clears s stream calls) := by
  intro final lines
  refine ⟨answers_runCalls calls l s, fun h => linesFor_of_invalid calls h _,
    fun h => shows_linesFor calls h _, ?_⟩
  intro stream hstream arrivals
  have hfinal : final.2.stream? stream =
      (s.stream? stream).map (arrivals.foldl OpenStream.after) :=
    stream?_runCalls calls hstreams s stream
  have hmem : ∀ o ∈ s.stream? stream, arrivals.foldl OpenStream.after o ∈ final.2.stream? stream := by
    intro o ho
    rw [hfinal, ho]
    rfl
  refine ⟨filterMap_arrivals calls hstream s, hfinal, ?_, of_closing_mem_arrivals calls, ?_, ?_,
    clears_of_allSound calls hstreams⟩
  · exact fun o ho => ⟨_, hmem o ho, OpenStream.isClosed_foldl_after arrivals o⟩
  · intro howned
    have harrivals : arrivals = lines.map Arrival.line :=
      arrivals_of_not_owned calls hstream howned s
    refine ⟨harrivals, fun o ho hwilling => ⟨_, hmem o ho, ?_⟩⟩
    rw [harrivals, hwilling.taken_lines]
  · intro hclears
    refine ⟨⟨of_closing_mem_arrivals calls, fun h => ?_⟩, fun t hstamp hsame => ?_⟩
    · exact closing_mem_arrivals calls hclears h.1 h.2
    · exact (beside_only hstamp hsame).stream?_runCalls hstreams hstream calls hclears

/-- A machine with two files, of which the second takes all. -/
def twoFiles (faults : Nat → Option StreamFault) : Machine :=
  { Machine.ofTree ⟨[]⟩ "/root" "/package" [] "[1]: " with
    streams := [.new .memory faults, .inMemory] }

/-- The first file fails on the first write and on the flush after the second. -/
theorem runCalls_independent_broken :
    let l := ofStreams [.file 0, .file 1, .messages] [.file 0] .time (some repeatSign)
    let calls : List Call := [.log "a", .log "a", .clock "[2]: ", .close, .log "b"]
    let s := twoFiles fun n =>
      if n = 0 then some (.onWrite 0 .closed) else if n = 1 then some (.onFlush .diskFull) else none
    let final := (l.runCalls calls).run s
    l.streams.Nodup ∧ (∃ o ∈ final.2.stream? .messages, o.taken = "[1]: a\n[1]: *\n[2]: b\n") ∧
    final.2.streams.map (fun o => (o.isClosed, o.taken)) =
      [(true, ("[1]: *\n" : Text)), (false, "[1]: a\n[1]: *\n[2]: b\n")] := by
  intro l calls s final
  have hstreams : l.streams.Nodup := by decide
  obtain ⟨-, -, -, hall⟩ := runCalls_independent hstreams calls s
  obtain ⟨-, -, -, -, hkept, -⟩ := hall .messages (by decide)
  exact ⟨hstreams, (hkept (by decide)).2 .inMemory rfl ⟨rfl, nofun⟩, by decide +kernel⟩

/-- The first file fails on every flush, and so on closing. The second one stays open then and takes
the next line, which it would not do if it were the only one. -/
theorem closing_stops_at_failure :
    let l := ofStreams [.file 0, .file 1] [.file 0, .file 1] .time (some repeatSign)
    let calls : List Call := [.log "x", .close, .log "y"]
    let s := twoFiles fun _ => some (.onFlush .diskFull)
    let final := (l.runCalls calls).run s
    let alone := ((l.only (.file 1)).runCalls calls).run s
    l.streams.Nodup ∧ Stream.file 1 ∈ l.owned ∧
    final.1.1 = [.ok (), .error (.stream .diskFull), .ok ()] ∧
    (final.2.stream? (.file 1)).map (fun o => (o.isClosed, o.taken)) =
      some (false, ("[1]: x\n[1]: y\n" : Text)) ∧
    (alone.2.stream? (.file 1)).map (fun o => (o.isClosed, o.taken)) =
      some (true, ("[1]: x\n" : Text)) := by
  intro l calls s final alone
  exact ⟨by decide, by decide, rfl, by decide +kernel, by decide +kernel⟩

end Collation.Logger
