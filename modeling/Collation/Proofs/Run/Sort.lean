import Collation.Proofs.Run.Body
import Collation.Proofs.Run.Ending
import Collation.Proofs.Run.Inputs
import Collation.Proofs.Run.Sources

/-! A run of the sort, from the options to what is shown. The collator and the log come before the
inputs, and everything is read before anything is printed. -/

namespace Collation

variable {s t u : Machine} {a b : App} {o o' : OptionStore} {c : Collator} {l : Logger}
  {name : Text} {names argv argv' texts : List Text} {lines : List Text}

namespace Collator

/-- Lines in the order of their keys. Lines of one key keep their order. -/
def sortedLines (c : Collator) (lines : List Text) : List Text :=
  lines.mergeSort fun x y => (c.key (some x)).le (c.key (some y))

theorem map_sortedLines (c : Collator) (lines : List Text) :
    (c.sortedLines lines).map some = c.tailoring.sort c.strength (lines.map some) := by
  rw [Tailoring.sort_eq_mergeSort]
  exact List.map_mergeSort fun _ _ _ _ => rfl

theorem sort_lines (c : Collator) (lines : List Text) :
    (c.sort (lines.map some)).1 = .ok ((c.sortedLines lines).map some) := by
  rw [sort_fst, map_sortedLines]

theorem sortedLines_sortedLines (c : Collator) (lines : List Text) :
    c.sortedLines (c.sortedLines lines) = c.sortedLines lines := by
  have hwords : (c.sortedLines (c.sortedLines lines)).map some = (c.sortedLines lines).map some := by
    rw [map_sortedLines, map_sortedLines, Tailoring.sort_sort]
  exact (List.map_inj_right fun _ _ => Option.some.inj).mp hwords

end Collator

namespace Command

open Program

/-- What the program is for, in its help text. -/
def sortDescription : Text :=
  "Sort lines of text by collation rules and print them to stdout."

/-- The inputs of a command line. -/
def inputNames (o : OptionStore) : List Text :=
  if o.positional.isEmpty then [inputName] else o.positional

/-- What is left to do once there is a collator. -/
def sortInputs : Program (StateM Machine) Unit := do
  let lines ← readLines (inputNames (← get).options)
  let start ← clock
  let result ← Program.sort (lines.map some)
  let stop ← clock
  Program.log (sortedMessage result.length (stop - start))
  result.forM fun line => printLine (line.getD [])

theorem sortLines_eq (argv : List Text) : (sortLines argv : Program (StateM Machine) Unit) = (do
    setup argv
    let _ ← collator
    sortInputs) := rfl

/-- The lines are sorted, unless the notice of a pool that has failed cannot be shown. -/
theorem exec_sort_of_collator (hc : a.collator = some c) (lines : List Text) (s : Machine) :
    ∃ r t, (Program.sort (lines.map some)).exec a s = ⟨r, a, t⟩ ∧ s.Extends t ∧
      t.output = s.output ∧ (∀ ws, r = .ok ws → ws = (c.sortedLines lines).map some) ∧
      (s.IsSound → r = .ok ((c.sortedLines lines).map some)) := by
  have hcollator : collator.exec a s = ⟨.ok c, a, s⟩ := by
    unfold collator
    rw [exec_bind_of_ok (exec_get a s), hc]
    rfl
  have hsorted := c.sort_lines lines
  unfold Program.sort
  rw [exec_bind_of_ok hcollator]
  rcases hwords : c.sort (lines.map some) with ⟨result, notice⟩
  rw [hwords] at hsorted
  obtain rfl : result = .ok ((c.sortedLines lines).map some) := hsorted
  cases notice with
  | false =>
    exact ⟨_, s, rfl, s.extends_refl, rfl, fun ws h => (Except.ok.inj h).symm, fun _ => rfl⟩
  | true =>
    have hgrows := s.extends_write .messages Workers.notice
    have hput := exec_put .messages Workers.notice a s
    dsimp only
    rw [if_pos rfl, exec_bind, hput]
    cases hanswer : s.err.answer with
    | ok v =>
      have hok : (s.write .messages Workers.notice).1 = .ok () := hanswer
      rw [hok]
      exact ⟨_, _, rfl, hgrows, rfl, fun ws h => (Except.ok.inj h).symm, fun _ => rfl⟩
    | error cause =>
      have herror : (s.write .messages Workers.notice).1 = .error cause := hanswer
      rw [herror]
      refine ⟨_, _, rfl, hgrows, rfl, nofun, fun hs => ?_⟩
      exact absurd (hanswer.symm.trans (hs.err.1.answer hs.err.2)) nofun

theorem isTidy_of_logger (hl : a.logger = some l) (htidy : l.IsTidy) : a.IsTidy := by
  intro l' hl'
  obtain rfl : l = l' := Option.some.inj (hl.symm.trans hl')
  exact htidy

/-- If all inputs can be read, their lines are sorted and printed, unless a stream fails. -/
theorem exec_sortInputs_of_texts (hc : a.collator = some c) (hl : a.logger = some l)
    (htidy : l.IsTidy) (htexts : s.inputTexts (inputNames a.options) = .ok texts) :
    ∃ r b unread t, sortInputs.exec a s = ⟨r, b, t⟩ ∧ b.IsTidy ∧
      { s with unread := unread }.Extends t ∧
      (r = .ok () →
        t.output = s.output ++ Text.printed (c.sortedLines (texts.flatMap Text.lines))) ∧
      (s.IsSound → r = .ok ()) := by
  obtain ⟨unread, hread⟩ := exec_readLines (inputNames a.options) a s
  rw [htexts] at hread
  obtain ⟨r, t, hsort, hgrows, houtput, hsorted, hsound⟩ :=
    exec_sort_of_collator hc (texts.flatMap Text.lines) { s with unread := unread }
  have hclock : ∀ t : Machine, clock.exec a t = ⟨.ok 0, a, t⟩ := fun t => rfl
  have hstart : sortInputs.exec a s = (Outcome.next ⟨r, a, t⟩ fun result => exec (do
      let stop ← clock
      Program.log (sortedMessage result.length (stop - 0))
      result.forM fun line => printLine (line.getD []))) := by
    unfold sortInputs
    rw [exec_bind_of_ok (exec_get a s), exec_bind_of_ok hread, exec_bind_of_ok (hclock _),
      exec_bind, hsort]
  cases r with
  | error e =>
    refine ⟨_, a, unread, t, hstart, isTidy_of_logger hl htidy, hgrows, nofun, fun hs => ?_⟩
    exact absurd (hsound (hs.unread unread)) nofun
  | ok ws =>
    obtain rfl := hsorted ws rfl
    have hlogger : logger.exec a t = ⟨.ok l, a, t⟩ := by
      unfold logger
      rw [exec_bind_of_ok (exec_get a t), hl]
      rfl
    have hnotice := isNotice_sortedMessage
      ((c.sortedLines (texts.flatMap Text.lines)).map some).length (0 - 0)
    obtain ⟨l', v, hl', hlogged, hlog⟩ := exec_log_of_ok hlogger htidy hnotice
    have hkept := (careful_log hnotice a t (isTidy_of_logger hl htidy)).kept
    rw [hlog] at hkept
    have hsame : v.output = s.output := (Machine.output_of_results hkept).trans houtput
    have hlines : ((c.sortedLines (texts.flatMap Text.lines)).map some).map (·.getD []) =
        c.sortedLines (texts.flatMap Text.lines) := by
      rw [List.map_map]
      exact List.map_id _
    have hexec : sortInputs.exec a s =
        ⟨(v.printed (c.sortedLines (texts.flatMap Text.lines))).1.mapError .stream,
          { a with logger := some l' },
          (v.printed (c.sortedLines (texts.flatMap Text.lines))).2⟩ := by
      rw [hstart]
      simp only [Outcome.next]
      rw [exec_bind_of_ok (hclock _), exec_bind_of_ok hlog, exec_printLines, hlines]
    have hprinting := v.extends_printed (c.sortedLines (texts.flatMap Text.lines))
    refine ⟨_, _, unread, _, hexec, tidy_withLogger hl' a, hgrows.trans (hlogged.trans hprinting),
      fun hok => ?_, fun hs => ?_⟩
    · rw [Machine.output_printed (mapError_eq_ok hok), hsame]
    · rw [((hlogged.sound (hgrows.sound (hs.unread unread))).printed _)]
      rfl

/-- An input that cannot be read is where a sort fails. -/
theorem exec_sortInputs_of_error {e : Failure}
    (htexts : s.inputTexts (inputNames a.options) = .error e) :
    ∃ unread, sortInputs.exec a s = ⟨.error e, a, { s with unread := unread }⟩ := by
  obtain ⟨unread, hread⟩ := exec_readLines (inputNames a.options) a s
  rw [htexts] at hread
  refine ⟨unread, ?_⟩
  unfold sortInputs
  rw [exec_bind_of_ok (exec_get a s), exec_bind_of_error hread]

/-- Options that come to a collator and a log bring a sort to its inputs. -/
theorem exec_sortLines (hparse : a.options.parse argv = .ok o) (ha : a.IsNew)
    (hconfigured : o.configured s = .ok o') (hc : o'.collatorOn s = .ok c)
    (hlog : (logger.exec (.ofOptions o') s).result = .ok l) :
    ∃ b t l', (sortLines argv).exec a s = sortInputs.exec b t ∧ b.options = o' ∧
      b.collator = some c ∧ b.logger = some l' ∧ l'.IsTidy ∧ s.Extends t ∧ o'.HasLog t ∧
      t.output = s.output := by
  have hnew : { a with options := o' }.IsNew := ⟨ha.logger, ha.rules, ha.tailoring, ha.collator⟩
  have hsetup : (setup argv).exec a s = ⟨.ok (), { a with options := o' }, s⟩ := by
    rw [exec_setup hparse, hconfigured]
  obtain ⟨b, t, l', hcollator, hoptions, hkept, hl', htidy, hgrows, hhas⟩ :=
    exec_collator_of_ok hnew hc hlog
  have htidy' : { a with options := o' }.IsTidy := by
    intro l'' hl''
    exact absurd (ha.logger.symm.trans hl'') nofun
  have hresults := (careful_collator { a with options := o' } s htidy').kept
  rw [hcollator] at hresults
  refine ⟨b, t, l', ?_, hoptions, hkept, hl', htidy, hgrows, hhas,
    Machine.output_of_results hresults⟩
  rw [sortLines_eq, exec_bind_of_ok hsetup, exec_bind_of_ok hcollator]

/-- A sort that comes to its end has had a collator and a log. -/
theorem exists_of_sortLines_eq_ok (hparse : a.options.parse argv = .ok o) (ha : a.IsNew)
    (h : (sortLines argv).exec a s = ⟨.ok (), b, u⟩) :
    ∃ o' c l, o.configured s = .ok o' ∧ o'.collatorOn s = .ok c ∧
      (logger.exec (.ofOptions o') s).result = .ok l := by
  rw [sortLines_eq] at h
  obtain ⟨⟨⟩, a₁, s₁, hsetup, hrest⟩ := exec_bind_eq_ok h
  obtain ⟨c, a₂, s₂, hcollator, -⟩ := exec_bind_eq_ok hrest
  rw [exec_setup hparse] at hsetup
  cases hconfigured : o.configured s with
  | error e =>
    rw [hconfigured] at hsetup
    cases hsetup
  | ok o' =>
    rw [hconfigured] at hsetup
    obtain rfl : { a with options := o' } = a₁ := congrArg Outcome.app hsetup
    obtain rfl : s = s₁ := congrArg Outcome.machine hsetup
    have hnew : { a with options := o' }.IsNew := ⟨ha.logger, ha.rules, ha.tailoring, ha.collator⟩
    obtain ⟨hc, l, hlog⟩ := exists_of_collator_eq_ok hnew hcollator
    exact ⟨o', c, l, rfl, hc, hlog⟩

theorem isNew_ofOptions (o : OptionStore) : (App.ofOptions o).IsNew :=
  ⟨rfl, rfl, rfl, rfl⟩

theorem inputNames_of_configured (h : o.configured s = .ok o') : inputNames o' = inputNames o := by
  obtain ⟨vs, -, rfl⟩ := map_eq_ok h
  rfl

/-- After the inputs are read, nothing is taken from a file whatever becomes of the run. -/
theorem extends_runOn_sort (hexec : (sortLines argv).exec
      (App.ofOptions (.standard sortDescription)) s = sortInputs.exec a t)
    (hc : a.collator = some c) (hl : a.logger = some l) (htidy : l.IsTidy) :
    ∃ unread, { t with unread := unread }.Extends (runOn (sort argv) s).2 := by
  cases htexts : t.inputTexts (inputNames a.options) with
  | error e =>
    obtain ⟨unread, hfailed⟩ := exec_sortInputs_of_error htexts
    exact ⟨unread, extends_runOn (isTidy_of_logger hl htidy) (hexec.trans hfailed)⟩
  | ok texts =>
    obtain ⟨r, b, unread, v, hdone, htidy', hextends, -, -⟩ :=
      exec_sortInputs_of_texts hc hl htidy htexts
    exact ⟨unread, hextends.trans (extends_runOn htidy' (hexec.trans hdone))⟩

/-- A sort that comes to its inputs prints their lines if it returns 0, which it does if no stream
fails. -/
theorem runOn_sort_of_texts (hexec : (sortLines argv).exec
      (App.ofOptions (.standard sortDescription)) s = sortInputs.exec a t)
    (hc : a.collator = some c) (hl : a.logger = some l) (htidy : l.IsTidy)
    (htexts : t.inputTexts (inputNames a.options) = .ok texts) :
    (∀ u, runOn (sort argv) s = (.ok 0, u) →
      u.output = t.output ++ Text.printed (c.sortedLines (texts.flatMap Text.lines))) ∧
    (t.IsSound → ∃ u, runOn (sort argv) s = (.ok 0, u)) := by
  obtain ⟨r, b, unread, v, hdone, htidy', hextends, hprinted, hsound⟩ :=
    exec_sortInputs_of_texts hc hl htidy htexts
  have hbody := hexec.trans hdone
  refine ⟨fun u hrun => ?_, fun ht => ?_⟩
  · obtain ⟨a', w, hbody', rfl⟩ := exec_of_runOn_zero sortDescription sortLines hrun
    obtain ⟨rfl, rfl, rfl⟩ := Outcome.mk.inj (hbody.symm.trans hbody')
    rw [← hprinted rfl]
    exact Machine.output_of_shown (v.shown_closeOwned htidy'.ownsFiles)
  · obtain rfl := hsound ht
    have hclosed := (hextends.sound (ht.unread unread)).closeOwned htidy'.ownsFiles
    exact ⟨_, (runOn_of_ok hbody).trans (Outcome.ended_of_ok hclosed)⟩

/-- What a sort has shown, if it returns 0. -/
theorem exists_of_runOn_sort (hparse : (OptionStore.standard sortDescription).parse argv = .ok o)
    (hrun : runOn (sort argv) s = (.ok 0, u)) :
    ∃ o' c t unread texts, o.configured s = .ok o' ∧ o'.collatorOn s = .ok c ∧ s.Extends t ∧
      o'.HasLog t ∧ { t with unread := unread }.Extends u ∧
      t.inputTexts (inputNames o) = .ok texts ∧
      u.output = s.output ++ Text.printed (c.sortedLines (texts.flatMap Text.lines)) := by
  obtain ⟨a, w, hbody, -⟩ := exec_of_runOn_zero sortDescription sortLines hrun
  obtain ⟨o', c, l, hconfigured, hc, hlog⟩ :=
    exists_of_sortLines_eq_ok (a := .ofOptions (.standard sortDescription)) hparse
      (isNew_ofOptions _) hbody
  obtain ⟨b, t, l', hexec, rfl, hkept, hl', htidy, hgrows, hhas, houtput⟩ :=
    exec_sortLines (a := .ofOptions (.standard sortDescription)) hparse (isNew_ofOptions _)
      hconfigured hc hlog
  have hnames := inputNames_of_configured hconfigured
  obtain ⟨unread, hextends⟩ := extends_runOn_sort hexec hkept hl' htidy
  rw [hrun] at hextends
  cases htexts : t.inputTexts (inputNames b.options) with
  | error e =>
    obtain ⟨unread, hfailed⟩ := exec_sortInputs_of_error htexts
    rw [hexec, hfailed] at hbody
    cases hbody
  | ok texts =>
    obtain ⟨hprinted, -⟩ := runOn_sort_of_texts hexec hkept hl' htidy htexts
    exact ⟨b.options, c, t, unread, texts, hconfigured, hc, hgrows, hhas, hextends, hnames ▸ htexts,
      (hprinted u hrun).trans (by rw [houtput])⟩

/-- A sort of printed lines prints them sorted if it returns 0, which it does if its log is there and
no stream fails. -/
theorem runOn_sort_of_printed
    (hparse : (OptionStore.standard sortDescription).parse argv = .ok o)
    (hconfigured : o.configured s = .ok o') (hc : o'.collatorOn s = .ok c) (hlog : o'.HasLog s)
    (hnames : inputNames o = [name])
    (hbytes : s.inputBytes name = .ok (Utf8.encode (Text.printed lines)))
    (hlines : ∀ line ∈ lines, ∀ c ∈ line, isLineBreak c = false)
    (hsame : name ≠ inputName → (runOn (sort argv) s).2.file name = s.file name) :
    (∀ u, runOn (sort argv) s = (.ok 0, u) →
      u.output = s.output ++ Text.printed (c.sortedLines lines)) ∧
    (s.IsSound → ∃ u, runOn (sort argv) s = (.ok 0, u)) := by
  obtain ⟨l, v, hopen⟩ := exec_openLog_of_hasLog hlog (App.ofOptions o')
  have hlogger : (logger.exec (.ofOptions o') s).result = .ok l := by
    rw [result_logger _ rfl (App.ofOptions o')]
    exact congrArg Outcome.result hopen
  obtain ⟨b, t, l', hexec, rfl, hkept, hl', htidy, hgrows, -, houtput⟩ :=
    exec_sortLines (a := .ofOptions (.standard sortDescription)) hparse (isNew_ofOptions _)
      hconfigured hc hlogger
  obtain ⟨unread, hextends⟩ := extends_runOn_sort hexec hkept hl' htidy
  -- The input is what it was when the run started.
  have hread : t.inputBytes name = .ok (Utf8.encode (Text.printed lines)) := by
    unfold Machine.inputBytes at hbytes ⊢
    split at hbytes
    · next hname =>
      rw [if_pos hname, hgrows.unread]
      exact hbytes
    · next hname =>
      rw [if_neg hname]
      exact hgrows.file_between hextends.tree hextends.current hbytes (hsame hname)
  have htexts := Machine.inputTexts_of_printed hlines hread
  rw [← hnames, ← inputNames_of_configured hconfigured] at htexts
  obtain ⟨hprinted, hsound⟩ := runOn_sort_of_texts hexec hkept hl' htidy htexts
  rw [List.flatMap_singleton, Text.lines_printed hlines, houtput] at hprinted
  exact ⟨hprinted, fun hs => hsound (hgrows.sound hs)⟩

end Command

end Collation
