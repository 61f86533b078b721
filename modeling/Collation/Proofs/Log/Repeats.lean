import Collation.Host.Machine
import Collation.Log.Logger

/-! Messages that a logger shows as repeats. Each message is compared to the one before it, and the
first one to an empty text, so that an empty first message is shown as a repeat of nothing. -/

namespace Collation.Logger

variable {mark last message : Text} {messages : List Text}

/-- What is shown for messages, one after the other. -/
def shownFrom (mark : Option Text) (last : Text) : List Text → List Text
  | [] => []
  | message :: messages =>
    (shorten mark last message).1 :: shownFrom mark (shorten mark last message).2 messages

/-- The messages for which something is shown. A mark stands for the message before it. -/
def restoreFrom (mark last : Text) : List Text → List Text
  | [] => []
  | shown :: more =>
    let message := if shown = mark then last else shown
    message :: restoreFrom mark message more

/-- With a mark, every message is the one to which the next one is compared. -/
theorem shorten_some (mark last message : Text) :
    shorten (some mark) last message = (if message = last then mark else message, message) := by
  unfold shorten
  by_cases h : message = last
  · subst h
    simp
  · simp [h]

theorem shownFrom_cons (mark last message : Text) (messages : List Text) :
    shownFrom (some mark) last (message :: messages) =
      (if message = last then mark else message) :: shownFrom (some mark) message messages := by
  rw [shownFrom, shorten_some]

theorem length_shownFrom (mark : Option Text) (last : Text) (messages : List Text) :
    (shownFrom mark last messages).length = messages.length := by
  induction messages generalizing last with
  | nil => rfl
  | cons message messages ih => exact congrArg (· + 1) (ih _)

theorem getElem?_succ_shownFrom (mark last : Text) {k : Nat} (h : messages[k + 1]? = some message) :
    (shownFrom (some mark) last messages)[k + 1]? =
      some (if messages[k]? = some message then mark else message) := by
  induction messages generalizing last k with
  | nil => contradiction
  | cons first messages ih =>
    rw [shownFrom_cons, List.getElem?_cons_succ]
    cases k with
    | succ k => exact ih first h
    | zero =>
      cases messages with
      | nil => contradiction
      | cons second messages =>
        obtain rfl : second = message := Option.some.inj h
        rw [shownFrom_cons, List.getElem?_cons_zero, List.getElem?_cons_zero]
        by_cases hrepeat : second = first
        · rw [if_pos hrepeat, if_pos (congrArg some hrepeat.symm)]
        · rw [if_neg hrepeat, if_neg fun heq => hrepeat (Option.some.inj heq).symm]

theorem restoreFrom_shownFrom (h : mark ∉ messages) (last : Text) :
    restoreFrom mark last (shownFrom (some mark) last messages) = messages := by
  induction messages generalizing last with
  | nil => rfl
  | cons message messages ih =>
    obtain ⟨hmessage, hmessages⟩ := not_or.mp (mt List.mem_cons.mpr h)
    rw [shownFrom_cons, restoreFrom]
    by_cases hrepeat : message = last
    · subst hrepeat
      rw [if_pos rfl, if_pos rfl, ih hmessages]
    · rw [if_neg hrepeat, if_neg (Ne.symm hmessage), ih hmessages]

section Run

variable {m : Type → Type} [Monad m] [Host m]

/-- A logger with a mark and no stamps, and the message to which the next one is compared. -/
def marking (streams owned : List Stream) (mark last : Text) : Logger :=
  ⟨streams, owned, .none, some mark, last⟩

variable [LawfulMonad m] (streams owned : List Stream) (mark last : Text)

theorem log_marking (message : Text) :
    ((marking streams owned mark last).log message : Attempt m Logger) = do
      offer ((if message = last then mark else message) ++ ['\n']) streams
      return marking streams owned mark message := by
  unfold log
  simp [marking, stampText, shorten_some]

/-- A run over messages offers what is shown for them, each on a line of its own. -/
theorem foldlM_log_marking (messages : List Text) :
    (messages.foldlM log (marking streams owned mark last) : Attempt m Logger) = do
      forM ((shownFrom (some mark) last messages).map (· ++ ['\n'])) (offer · streams)
      return marking streams owned mark (messages.getLast?.getD last) := by
  induction messages generalizing last with
  | nil =>
    rw [List.foldlM_nil, shownFrom, List.map_nil, List.forM_nil, pure_bind]
    rfl
  | cons message messages ih =>
    rw [List.foldlM_cons, log_marking, shownFrom_cons, List.map_cons, List.forM_cons, bind_assoc,
      bind_assoc, List.getLast?_cons]
    refine congrArg _ (funext fun _ => ?_)
    rw [pure_bind, ih]
    rfl

end Run

/-- A logger with a mark and no stamps offers one line for each message: the mark if the message is
that of the line before, and else the message itself. The first message is compared to an empty text
in place of one before it. If no message is the mark, the messages are restored from the lines. -/
theorem log_marks_repeats {m : Type → Type} [Monad m] [LawfulMonad m] [Host m]
    (streams owned : List Stream) (h : mark ∉ messages) :
    let start := ofStreams streams owned .none (some mark)
    let shown := shownFrom (some mark) [] messages
    (messages.foldlM log start : Attempt m Logger) = (do
      forM (shown.map (· ++ ['\n'])) (offer · streams)
      return { start with last := messages.getLast?.getD [] }) ∧
    shown.length = messages.length ∧
    (∀ message, messages.head? = some message →
      shown.head? = some (if message = [] then mark else message)) ∧
    (∀ k message, messages[k + 1]? = some message →
      shown[k + 1]? = some (if messages[k]? = some message then mark else message)) ∧
    restoreFrom mark [] shown = messages := by
  intro start shown
  refine ⟨foldlM_log_marking streams owned mark [] messages, length_shownFrom _ _ messages, ?_,
    fun k message => getElem?_succ_shownFrom mark [], restoreFrom_shownFrom h []⟩
  intro message hhead
  obtain ⟨rest, rfl⟩ := List.head?_eq_some_iff.mp hhead
  exact congrArg List.head? (shownFrom_cons mark [] message rest)

/-- A machine with one stream, which takes all that it is offered. -/
def takingMachine : Machine :=
  { Machine.ofTree ⟨[]⟩ "/root" "/package" [] "[now]: " with streams := [.inMemory] }

/-- What the stream has taken when messages have been logged, with an asterisk for a mark. -/
def takenFor (messages : List Text) : List Text :=
  let run : Attempt (StateM Machine) Logger :=
    messages.foldlM log (ofStreams [.file 0] [] .none (some repeatSign))
  (run.run.run takingMachine).2.streams.map (·.taken)

theorem log_marks_repeats_returning :
    let messages : List Text := ["a", "a", "b", "a"]
    repeatSign ∉ messages ∧ takenFor messages = [("a\n*\nb\na\n" : Text)] ∧
    restoreFrom repeatSign [] ["a", "*", "b", "a"] = messages := by
  intro messages
  have hmark : repeatSign ∉ messages := by decide
  obtain ⟨hrun, -, -, -, hrestore⟩ :=
    log_marks_repeats (m := StateM Machine) [.file 0] [] hmark
  refine ⟨hmark, ?_, hrestore⟩
  exact congrArg (fun run : Attempt (StateM Machine) Logger =>
    (run.run.run takingMachine).2.streams.map (·.taken)) hrun

/-- An empty message is shown as a repeat although there is none before it. -/
theorem log_marks_first_empty :
    repeatSign ∉ [([] : Text)] ∧ takenFor [[]] = [("*\n" : Text)] ∧ repeatSign ++ ['\n'] ≠ ['\n'] :=
  ⟨by decide, rfl, by decide⟩

end Collation.Logger
