import Collation.Proofs.Run.Local
import Collation.Proofs.Text.Lines
import Collation.Proofs.Text.Utf8

/-! The lines that a sort reads and prints. Each input is a text of its own, and lines that were
printed are read as the same lines. -/

namespace Collation

variable {s t u : Machine} {name path : Text} {names texts : List Text} {ls : List Text}
  {bytes : List UInt8}

namespace Machine

/-- The bytes that a name of an input stands for: those of a file, or all that is left of the
standard input. -/
def inputBytes (name : Text) (s : Machine) : Except FileCause (List UInt8) :=
  if name = Command.inputName then .ok s.unread else s.file name

def afterInput (name : Text) (s : Machine) : Machine :=
  if name = Command.inputName then { s with unread := [] } else s

def inputText (name : Text) (s : Machine) : Except Failure Text :=
  if name = Command.inputName then
    ((Utf8.decode s.unread).mapError .encoding).map Text.unifyNewlines
  else s.fileText name

/-- The texts that names of inputs stand for, one after the other. -/
def inputTexts : List Text → Machine → Except Failure (List Text)
  | [], _ => .ok []
  | name :: rest, s => (s.inputText name).bind fun content =>
    (inputTexts rest (s.afterInput name)).map (content :: ·)

/-- A machine after lines are written to the results, up to the first that fails. -/
def printed (lines : List Text) (s : Machine) : Except StreamCause Unit × Machine :=
  upTo (fun line => write .output (line ++ ['\n'])) lines s

theorem extends_printed (lines : List Text) (s : Machine) : s.Extends (s.printed lines).2 :=
  upTo_induction (fun line _ t ht => ht.trans (t.extends_write .output (line ++ ['\n'])))
    s.extends_refl

/-- All lines are shown if none fails. -/
theorem output_printed {lines : List Text} (h : (s.printed lines).1 = .ok ()) :
    (s.printed lines).2.output = s.output ++ Text.printed lines := by
  induction lines generalizing s with
  | nil => exact (List.append_nil _).symm
  | cons line lines ih =>
    unfold printed upTo at h ⊢
    cases hanswer : s.out.answer with
    | error cause =>
      have hline : (s.write .output (line ++ ['\n'])).1 = .error cause := hanswer
      rw [hline] at h
      cases h
    | ok v =>
      have hline : (s.write .output (line ++ ['\n'])).1 = .ok () := hanswer
      rw [hline] at h ⊢
      refine (ih h).trans ?_
      have hshown : (s.write .output (line ++ ['\n'])).2.output = s.output ++ (line ++ ['\n']) :=
        OpenStream.taken_write_of_ok hanswer _
      rw [hshown, Text.printed_cons]
      simp

theorem IsSound.printed (hs : s.IsSound) (lines : List Text) : (s.printed lines).1 = .ok () :=
  upTo_of_ok (P := IsSound) (fun _ _ _ ht => ht.out.1.answer ht.out.2)
    (fun line _ t ht => (t.extends_write .output (line ++ ['\n'])).sound ht) hs

/-- Lines that were printed are read again. -/
theorem inputTexts_of_printed (hls : ∀ line ∈ ls, ∀ c ∈ line, isLineBreak c = false)
    (h : s.inputBytes name = .ok (Utf8.encode (Text.printed ls))) :
    s.inputTexts [name] = .ok [Text.printed ls] := by
  have htext : s.inputText name = .ok (Text.printed ls) := by
    have hread : ((Utf8.decode (Utf8.encode (Text.printed ls))).mapError Failure.encoding).map
        Text.unifyNewlines = .ok (Text.printed ls) := by
      rw [Utf8.decode_encode]
      exact congrArg Except.ok (Text.unifyNewlines_printed hls)
    unfold inputBytes at h
    unfold inputText
    split at h
    · next hname =>
      rw [if_pos hname, Except.ok.inj h, hread]
    · next hname =>
      rw [if_neg hname, fileText, h]
      exact hread
  unfold inputTexts
  rw [htext]
  rfl

/-! Inputs that are the same before and after a time are the same at that time. -/

theorem Extends.file_between (h : s.Extends t) (h' : t.tree.Extends u.tree)
    (hcurrent : u.current = t.current) (hs : s.file path = .ok bytes)
    (hsame : u.file path = s.file path) : t.file path = .ok bytes := by
  unfold Machine.file at hs hsame ⊢
  rw [hcurrent, h.current] at hsame
  rw [h.current]
  exact h.tree.read_between h' hs hsame

theorem Extends.file_before (h : s.Extends t) (h' : t.tree.Extends u.tree)
    (hcurrent : u.current = t.current) (ht : t.file path = .ok bytes)
    (hsame : u.file path = s.file path) : s.file path = .ok bytes := by
  unfold Machine.file at ht hsame ⊢
  rw [hcurrent, h.current] at hsame
  rw [h.current] at ht
  exact h.tree.read_before h' ht hsame

theorem Extends.afterInput (h : s.Extends t) (name : Text) :
    (s.afterInput name).Extends (t.afterInput name) := by
  unfold Machine.afterInput
  split
  · exact ⟨h.tree, h.current, h.homePath, h.packagePath, rfl,
      fun hs => (h.sound (hs.unread s.unread)).unread []⟩
  · exact h

theorem tree_afterInput (name : Text) (s : Machine) :
    (s.afterInput name).tree = s.tree ∧ (s.afterInput name).current = s.current := by
  unfold afterInput
  split <;> exact ⟨rfl, rfl⟩

theorem file_afterInput (name path : Text) (s : Machine) :
    (s.afterInput name).file path = s.file path := by
  obtain ⟨htree, hcurrent⟩ := s.tree_afterInput name
  unfold file
  rw [htree, hcurrent]

/-- What was read is what stood there before, if it still stands there. -/
theorem Extends.inputTexts_before (h : s.Extends t) (h' : t.tree.Extends u.tree)
    (hcurrent : u.current = t.current)
    (hsame : ∀ name ∈ names, name ≠ Command.inputName → u.file name = s.file name)
    (htexts : t.inputTexts names = .ok texts) : s.inputTexts names = .ok texts := by
  induction names generalizing s t texts with
  | nil => exact htexts
  | cons name names ih =>
    obtain ⟨hname, hnames⟩ := List.forall_mem_cons.mp hsame
    obtain ⟨content, hcontent, hrest⟩ := bind_eq_ok htexts
    obtain ⟨more, hmore, rfl⟩ := map_eq_ok hrest
    have hfirst : s.inputText name = .ok content := by
      unfold inputText at hcontent ⊢
      split at hcontent
      · next hinput =>
        rw [if_pos hinput, ← h.unread]
        exact hcontent
      · next hfile =>
        obtain ⟨bytes, read, hbytes, hdecode, rfl⟩ := fileText_eq_ok hcontent
        rw [if_neg hfile, fileText, h.file_before h' hcurrent hbytes (hname hfile)]
        dsimp only
        rw [hdecode]
        rfl
    obtain ⟨htree, hcurrent'⟩ := t.tree_afterInput name
    have hagain := ih (h.afterInput name) (htree ▸ h') (hcurrent.trans hcurrent'.symm)
      (fun other hother hfile =>
        (hnames other hother hfile).trans (s.file_afterInput name other).symm) hmore
    rw [inputTexts, hfirst]
    simp only [Except.bind]
    rw [hagain]
    rfl

end Machine

namespace Command

open Program

/-- What is read of one input. -/
theorem exec_readInput (name : Text) (a : App) (s : Machine) :
    exec (if name = inputName then Host.readInput else Host.readText name) a s =
      ⟨s.inputText name, a, s.afterInput name⟩ := by
  unfold Machine.inputText Machine.afterInput
  by_cases hname : name = inputName
  · have hinput : exec (liftM (Host.input : StateT App (StateM Machine) _)) a s =
      ⟨.ok s.unread, a, { s with unread := [] }⟩ := rfl
    rw [if_pos hname, if_pos hname, if_pos hname]
    unfold Host.readInput Host.attemptText
    rw [exec_bind_of_ok hinput]
    cases Utf8.decode s.unread <;> rfl
  · rw [if_neg hname, if_neg hname, if_neg hname, exec_readText]

theorem readLines_cons (name : Text) (names : List Text) :
    (readLines (name :: names) : Program (StateM Machine) (List Text)) =
      (if name = inputName then Host.readInput else Host.readText name) >>= fun content => do
        return Text.lines content ++ (← readLines names) := by
  rw [readLines]
  split <;> rfl

/-- Nothing but the standard input is used up by reading. -/
theorem exec_readLines (names : List Text) (a : App) (s : Machine) : ∃ unread,
    exec (readLines names) a s =
      ⟨(s.inputTexts names).map fun texts => texts.flatMap Text.lines, a,
        { s with unread := unread }⟩ := by
  induction names generalizing s with
  | nil => exact ⟨s.unread, rfl⟩
  | cons name names ih =>
    obtain ⟨before, hbefore⟩ : ∃ unread, s.afterInput name = { s with unread := unread } := by
      unfold Machine.afterInput
      split
      · exact ⟨[], rfl⟩
      · exact ⟨s.unread, rfl⟩
    obtain ⟨unread, hrest⟩ := ih (s.afterInput name)
    rw [readLines_cons, exec_bind, exec_readInput, Machine.inputTexts]
    cases s.inputText name with
    | error e => exact ⟨before, by rw [hbefore]; rfl⟩
    | ok content =>
      refine ⟨unread, ?_⟩
      simp only [Outcome.next]
      rw [exec_bind, hrest, hbefore]
      cases (Machine.inputTexts names { s with unread := before }) <;> rfl

/-! Printing. -/

theorem exec_printLines (ws : List Word) (a : App) (s : Machine) :
    exec (ws.forM fun line => printLine (line.getD [])) a s =
      ⟨(s.printed (ws.map (·.getD []))).1.mapError .stream, a,
        (s.printed (ws.map (·.getD []))).2⟩ := by
  induction ws generalizing s with
  | nil => rfl
  | cons w ws ih =>
    have hcons : exec ((w :: ws).forM fun line => printLine (line.getD [])) a s = exec (do
        printLine (w.getD [])
        ws.forM fun line => printLine (line.getD [])) a s := rfl
    rw [hcons, exec_bind, printLine, exec_put, List.map_cons, Machine.printed, Machine.upTo]
    cases (s.write .output (w.getD [] ++ ['\n'])).1 with
    | ok v => exact ih _
    | error cause => rfl

end Command

end Collation
