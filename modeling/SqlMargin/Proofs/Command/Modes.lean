import SqlMargin.Proofs.Command.Inspection
import SqlMargin.Proofs.Files.Replacement
import SqlMargin.Proofs.Text.Utf8

/-! The modes of the command side by side. Printing, checking and writing back start from the same
inspection, so they fail alike, and where they do not fail they go by the same indented text. -/
namespace SqlMargin.Command

open Text (ControlSequence.escape)

variable {h : Host} {p q : List String} {check inPlace : Bool}

/-- The words ask for a text that has nothing to do with a file. -/
def AsksForText (h : Host) (words : List String) : Prop :=
  ∃ text, h.kit.arguments h.probe words = .error (.told text)

/-- A library that leaves out no more than control sequences, and these only where no terminal shows
them. -/
def Toolkit.ShowsPlain (kit : Toolkit) : Prop :=
  ∀ onTerminal t, onTerminal = true ∨ ControlSequence.escape ∉ t →
    kit.shown onTerminal (String.ofList t) = String.ofList t

theorem Toolkit.standard_showsPlain : Toolkit.standard.ShowsPlain := by
  intro onTerminal t ht
  change (if onTerminal = true then String.ofList t else Text.plain (String.ofList t)) = _
  split
  · rfl
  · next hoff =>
    rw [Text.plain, String.toList_ofList,
      Text.ControlSequence.strip_of_notMem t (ht.resolve_left hoff)]

/-! Reports of runs that are known to their end. -/

/-- A run came to its end with a text to print, which it has printed if the output took it. -/
def Report.Printed (r : Report) (h : Host) (text : String) : Prop :=
  if text = "" ∨ h.outputFault text = none then
    r.exitCode = 0 ∧ r.output = text ∧ r.unprinted = none
  else r.exitCode = 1 ∧ r.unprinted = h.outputFault text

lemma Report.printed_printing {r : Report} (hcode : r.exitCode = 0) (hout : r.output = "")
    (hprinted : r.unprinted = none) (h : Host) (text : String) :
    (r.printing h text).Printed h text := by
  unfold printing Printed
  by_cases hempty : text = ""
  · rw [if_pos hempty, if_pos (.inl hempty)]
    exact ⟨hcode, hout.trans hempty.symm, hprinted⟩
  · rw [if_neg hempty]
    cases hfault : h.outputFault text with
    | none =>
      rw [if_pos (.inr rfl)]
      exact ⟨hcode, rfl, hprinted⟩
    | some message =>
      rw [if_neg (by simp [hempty])]
      exact ⟨rfl, rfl⟩

lemma run_of_ok [Memory] {s : Progress} {code : Nat} {text : String}
    (hrun : (perform h q).run.run { disk := h.disk } = (.ok (code, text), s)) :
    (run h q).disk = s.disk ∧ (text = "" → (run h q).exitCode = code) ∧
      (code = 0 → (run h q).Printed h text) := by
  unfold run
  rw [hrun]
  refine ⟨Report.printing_disk _ h text, ?_, ?_⟩
  · rintro rfl
    rfl
  · rintro rfl
    exact Report.printed_printing rfl rfl rfl h text

lemma run_of_error [Memory] {s : Progress} {e : Ending}
    (hrun : (perform h q).run.run { disk := h.disk } = (.error e, s)) :
    (run h q).disk = s.disk ∧ ((∀ text, e ≠ .told text) →
      (run h q).exitCode ≠ 0 ∧ (run h q).unprinted = none) := by
  unfold run
  rw [hrun]
  cases e with
  | told text => exact ⟨Report.printing_disk _ h text, fun hnot => absurd rfl (hnot text)⟩
  | refused notice => exact ⟨rfl, fun _ => ⟨notice.exitCode_ne_zero, rfl⟩⟩
  | crashed c => exact ⟨rfl, fun _ => ⟨nofun, rfl⟩⟩

/-! What each mode makes of a file that was read and indented. -/

section Conclude

variable {path : Path} {x : Examined} {loc : List String} {f : File}

lemma Examined.Of.changed_iff (hx : x.Of f) :
    (x.content.after != x.content.before) = true ↔ Text.Utf8.encode x.content.after ≠ f.bytes := by
  rw [← Text.Utf8.encode_of_decode hx.decoded, bne_iff_ne]
  exact (Text.Utf8.encode_injective.ne_iff).symm

/-- A check tells by its exit code whether the bytes would change. -/
lemma conclude_check (h : Host) (inPlace : Bool) (path : Path) (hx : x.Of f) (s : Progress) :
    ∃ s', (conclude h true inPlace path x).run.run s =
        (.ok (if Text.Utf8.encode x.content.after = f.bytes then 0 else 1, ""), s') ∧
      s'.disk = s.disk := by
  unfold conclude
  by_cases hsame : Text.Utf8.encode x.content.after = f.bytes
  · simp only [if_true, hsame, mt hx.changed_iff.1 (not_not_intro hsame)]
    exact ⟨s, rfl, rfl⟩
  · simp only [if_true, hsame, hx.changed_iff.2 hsame]
    exact ⟨_, rfl, rfl⟩

/-- Writing back ends as the replacement does. -/
lemma exists_run_writeBack (hidle : ∀ moment path d, h.writers moment path d = d) (path : Path)
    (y : Examined) (s : Progress) :
    ∃ s', (writeBack h path y).run.run s =
        (((h.toView.on s.disk).replaceContent h.plan path y.content.after y.after
          y.before).outcome.mapError fun e => .refused (h.kit.failure e.message), s') ∧
      s'.disk = ((h.toView.on s.disk).replaceContent h.plan path y.content.after y.after
        y.before).disk := by
  have hpause : (Task.pause h path .afterCheck).run.run s =
      (.ok ⟨⟩, { s with passed := s.passed ++ [.afterCheck] }) := by
    change (_, { s with disk := h.writers _ _ s.disk, passed := _ }) = _
    rw [hidle]
  have hview (t : Progress) : (Task.view h).run.run t = (.ok (h.toView.on t.disk), t) := rfl
  rw [writeBack, run_bind_ok hpause, run_bind_ok (hview _)]
  dsimp only
  generalize View.replaceContent _ _ _ _ _ _ = done
  have hwrite (t : Progress) : (modify fun s => { s with disk := done.disk } : Task PUnit).run.run t =
      (.ok ⟨⟩, { t with disk := done.disk }) := rfl
  obtain ⟨s', htell, hdisk⟩ := Task.Gives.forM (f := Task.tell h) (fun w => Task.Gives.say _)
    done.warnings { disk := done.disk, errors := s.errors, passed := s.passed ++ [.afterCheck] } rfl
  refine ⟨s', ?_, hdisk⟩
  rw [run_bind_ok (hwrite _), run_bind_ok htell]
  cases done.outcome <;> rfl

lemma run_writeBack (hidle : ∀ moment path d, h.writers moment path d = d) (hplan : h.plan = .sound)
    (hx : x.Of f) {s : Progress} (hfile : (h.toView.on s.disk).fileAt path = .ok (loc, f))
    (hwrite : (s.disk.directoryMode loc.dropLast).mayWrite h.user = true) :
    ∃ s', (writeBack h path x).run.run s = (.ok (), s') ∧
      s.disk.Rewrites s'.disk loc f.mode (Text.Utf8.encode x.content.after) := by
  have hstamp : x.after.stamp = f.stat.stamp := by rw [hx.after]
  obtain ⟨disk, hreplace, hrewrites⟩ :=
    View.replaceContent_sound hfile hstamp hwrite x.content.after x.before
  obtain ⟨s', hrun, hdisk⟩ := exists_run_writeBack hidle path x s
  rw [hplan, hreplace] at hrun hdisk
  rw [hx.after] at hrewrites
  exact ⟨s', hrun, by rwa [hdisk]⟩

/-- Writing back leaves the file with the bytes of the indented text, changed or not. -/
lemma conclude_inPlace (hidle : ∀ moment path d, h.writers moment path d = d)
    (hplan : h.plan = .sound) (hx : x.Of f) {s : Progress}
    (hfile : (h.toView.on s.disk).fileAt path = .ok (loc, f))
    (hwrite : (s.disk.directoryMode loc.dropLast).mayWrite h.user = true) :
    ∃ s', (conclude h false true path x).run.run s = (.ok (0, ""), s') ∧
      s.disk.Rewrites s'.disk loc f.mode (Text.Utf8.encode x.content.after) := by
  unfold conclude
  simp only [Bool.false_eq_true, Bool.not_true, if_false]
  by_cases hsame : Text.Utf8.encode x.content.after = f.bytes
  · rw [if_neg (mt hx.changed_iff.1 (not_not_intro hsame)), hsame]
    exact ⟨s, rfl, .refl (View.node_eq_ok_iff.1 (View.fileAt_eq_ok_iff.1 hfile)).2⟩
  · obtain ⟨s', hrun, hrewrites⟩ := run_writeBack hidle hplan hx hfile hwrite
    rw [if_pos (hx.changed_iff.2 hsame)]
    exact ⟨s', run_bind_ok hrun _, hrewrites⟩

end Conclude

/-- Where an inspection ends early, every mode ends so. -/
lemma perform_of_attempt_error [Memory] {s : Progress} {e : Ending}
    (hattempt : (attempt h p).run.run { disk := h.disk } = (.error e, s))
    (hq : h.kit.Variant p q check inPlace) :
    (perform h q).run.run { disk := h.disk } = (.error e, s) := by
  rw [perform_eq hq]
  exact run_bind_error hattempt _

lemma run_eq_of_attempt_error [Memory] {s : Progress} {e : Ending}
    (hattempt : (attempt h p).run.run { disk := h.disk } = (.error e, s))
    (hp : h.kit.Variant p p false false) (hq : h.kit.Variant p q check inPlace) :
    run h q = run h p := by
  unfold run
  rw [perform_of_attempt_error hattempt hq, perform_of_attempt_error hattempt hp]

lemma perform_of_attempt_ok [Memory] {s : Progress} {x : Path × Examined}
    (hattempt : (attempt h p).run.run { disk := h.disk } = (.ok x, s))
    (hq : h.kit.Variant p q check inPlace) :
    (perform h q).run.run { disk := h.disk } =
      (conclude h check inPlace x.1 x.2).run.run s := by
  rw [perform_eq hq]
  exact run_bind_ok hattempt _

lemma run_attempt_told [Memory] {text : String}
    (htext : h.kit.arguments h.probe p = .error (.told text)) :
    (attempt h p).run.run { disk := h.disk } = (.error (.told text), { disk := h.disk }) := by
  have hview : (Task.view h).run.run { disk := h.disk } = (.ok h.toView, { disk := h.disk }) := rfl
  unfold attempt
  rw [run_bind_ok hview, htext]
  rfl

/-- What an inspection comes to where no text is asked for. -/
lemma attempt_findings [Memory] (hidle : ∀ moment path d, h.writers moment path d = d)
    (hasks : ¬AsksForText h p) :
    (∃ e s, (attempt h p).run.run { disk := h.disk } = (.error e, s) ∧
      s.disk = h.disk ∧ ∀ text, e ≠ .told text) ∨
    ∃ (x : Findings) (s : Progress),
      (attempt h p).run.run { disk := h.disk } = (.ok (x.path, x.examined), s) ∧
      s.disk = h.disk ∧ x.Of h p ∧ x.At h := by
  have hreads := reads_attempt hidle (fun text htext => hasks ⟨text, htext⟩) { disk := h.disk } rfl
  rcases hrun : (attempt h p).run.run { disk := h.disk } with ⟨e | y, s⟩
  · rw [hrun] at hreads
    exact .inl ⟨e, s, rfl, hreads⟩
  · rw [hrun] at hreads
    obtain ⟨hdisk, x, haim, hx, rfl⟩ := hreads
    exact .inr ⟨x, s, rfl, hdisk, haim, hx⟩

lemma Findings.At.names [Memory] {x : Findings} (hx : x.At h) (haim : x.Of h p) :
    h.Names p x.path x.loc x.file := ⟨x.arguments, haim.arguments, haim.path, hx.file⟩

/-- A check of a file whose indented text is `t`. -/
def Checks [Memory] (h : Host) (words : List String) (f : File) (t : List Char) : Prop :=
  (run h words).disk = h.disk ∧
    (run h words).exitCode = if Text.Utf8.encode t = f.bytes then 0 else 1

lemma checks_of_attempt [Memory] {s : Progress} {x : Path × Examined} {f : File}
    (hattempt : (attempt h p).run.run { disk := h.disk } = (.ok x, s))
    (hdisk : s.disk = h.disk) (hx : x.2.Of f) (hq : h.kit.Variant p q true inPlace) :
    Checks h q f x.2.content.after := by
  have hperform := perform_of_attempt_ok hattempt hq
  obtain ⟨s', hrun, hkept⟩ := conclude_check h inPlace x.1 hx s
  obtain ⟨hend, hcode, -⟩ := run_of_ok (hperform.trans hrun)
  exact ⟨hend.trans (hkept.trans hdisk), hcode rfl⟩

/-- With no one else writing and no call of a replacement failing, the modes agree. If printing
fails before there is a text to print, or a text was asked for, all end alike and nothing is
changed. Otherwise there is one text that is printed as the library shows it, if the output takes
it, that decides about a check, and that is in the file after writing back. -/
theorem run_modes_agree [Memory] {h : Host} {p c i b : List String}
    (hidle : ∀ moment path d, h.writers moment path d = d) (hplan : h.plan = .sound)
    (hp : h.kit.Variant p p false false) (hc : h.kit.Variant p c true false)
    (hi : h.kit.Variant p i false true) (hb : h.kit.Variant p b true true) :
    ((run h p).exitCode ≠ 0 ∧ (run h p).unprinted = none ∨ AsksForText h p →
      run h c = run h p ∧ run h i = run h p ∧ run h b = run h p ∧ (run h p).disk = h.disk) ∧
    ((run h p).exitCode = 0 ∨ (run h p).unprinted ≠ none → ¬AsksForText h p →
      ∃ path loc f t, h.Names p path loc f ∧
        (run h p).Printed h (h.kit.shown h.outputOnTerminal (String.ofList t)) ∧
        (h.kit.ShowsPlain → h.outputOnTerminal = true ∨ ControlSequence.escape ∉ t →
          (run h p).Printed h (String.ofList t)) ∧
        (run h p).disk = h.disk ∧ Checks h c f t ∧ Checks h b f t ∧
        ((h.disk.directoryMode loc.dropLast).mayWrite h.user = true →
          (run h i).exitCode = 0 ∧
            h.disk.Rewrites (run h i).disk loc f.mode (Text.Utf8.encode t))) := by
  have hfail {e : Ending} {s : Progress}
      (hattempt : (attempt h p).run.run { disk := h.disk } = (.error e, s))
      (hdisk : s.disk = h.disk) :
      run h c = run h p ∧ run h i = run h p ∧ run h b = run h p ∧ (run h p).disk = h.disk := by
    refine ⟨?_, ?_, ?_, ?_⟩
    · exact run_eq_of_attempt_error hattempt hp hc
    · exact run_eq_of_attempt_error hattempt hp hi
    · exact run_eq_of_attempt_error hattempt hp hb
    · exact (run_of_error (perform_of_attempt_error hattempt hp)).1.trans hdisk
  by_cases hasks : AsksForText h p
  · obtain ⟨text, htext⟩ := hasks
    exact ⟨fun _ => hfail (run_attempt_told htext) rfl, fun _ hnot => absurd ⟨text, htext⟩ hnot⟩
  rcases attempt_findings hidle hasks with ⟨e, s, hattempt, hdisk, htold⟩ | hfound
  · obtain ⟨hcode, hprinted⟩ := (run_of_error (perform_of_attempt_error hattempt hp)).2 htold
    exact ⟨fun _ => hfail hattempt hdisk, fun hor => (hor.elim hcode (absurd hprinted)).elim⟩
  · obtain ⟨x, s, hattempt, hdisk, haim, hx⟩ := hfound
    obtain ⟨hend, -, hprinted⟩ := run_of_ok (perform_of_attempt_ok hattempt hp)
    replace hprinted : (run h p).Printed h _ := hprinted rfl
    constructor
    · intro hor
      obtain ⟨hcode, hnone⟩ := hor.resolve_right hasks
      unfold Report.Printed at hprinted
      split at hprinted
      · exact absurd hprinted.1 hcode
      · next hfault => exact absurd (.inr (hprinted.2.symm.trans hnone)) hfault
    · intro _ _
      refine ⟨x.path, x.loc, x.file, x.content.after, hx.names haim, hprinted, ?_, ?_, ?_, ?_, ?_⟩
      · intro hshows ht
        rwa [← hshows _ _ ht]
      · exact hend.trans hdisk
      · exact checks_of_attempt hattempt hdisk hx.of hc
      · exact checks_of_attempt hattempt hdisk hx.of hb
      · intro hwrite
        have hfile := hx.file
        have hview : h.toView.on s.disk = h.toView := by rw [hdisk]; rfl
        rw [← hview] at hfile
        rw [← hdisk] at hwrite ⊢
        obtain ⟨s', hrun, hrewrites⟩ := conclude_inPlace hidle hplan hx.of hfile hwrite
        obtain ⟨hlast, hzero, -⟩ := run_of_ok ((perform_of_attempt_ok hattempt hi).trans hrun)
        rw [hlast]
        exact ⟨hzero rfl, hrewrites⟩

/-- A disk with one file, seen by a command that writes to a terminal or not. -/
def oneFile (text : String) (onTerminal : Bool) : Host where
  disk := { nodes := [(["q.sql"], .file ⟨Text.Utf8.encode text.toList, .plainFile, 1, 0, 0, 0⟩)] }
  cwd := []
  kit := .standard
  homes := { own := some "/" }
  outputOnTerminal := onTerminal

lemma oneFile_mayWrite (text : String) (onTerminal : Bool) (loc : List String) :
    ((oneFile text onTerminal).disk.directoryMode loc).mayWrite {} = true := by
  have hplain : Mode.plainDirectory.mayWrite {} = true := by decide
  unfold Disk.directoryMode Disk.node? oneFile
  by_cases hroot : loc = []
  · rw [if_pos hroot]
    exact hplain
  · rw [if_neg hroot, List.lookup_cons]
    cases loc == ["q.sql"] with
    | true => exact hplain
    | false => exact hplain

section Ample

attribute [local instance] Memory.ample

/-- Only one line is to be indented, and the mode flags stand before, after and between the other
words. -/
theorem run_modes_agree_line :
    let h := oneFile "a (\nb\n)" true
    (run h ["--line", "2", "q.sql"]).output = "a (\n    b\n)" ∧
    (run h ["--line", "2", "--check", "q.sql"]).exitCode = 1 ∧
    ∃ loc f t, (run h ["--line", "2", "q.sql"]).Printed h (String.ofList t) ∧
      Checks h ["--line", "2", "--check", "q.sql"] f t ∧
      Checks h ["-i", "--check", "--line", "2", "q.sql"] f t ∧
      (run h ["--line", "2", "q.sql", "-i"]).exitCode = 0 ∧
      h.disk.Rewrites (run h ["--line", "2", "q.sql", "-i"]).disk loc f.mode
        (Text.Utf8.encode t) := by
  have hp : Toolkit.standard.Variant ["--line", "2", "q.sql"] ["--line", "2", "q.sql"] false false :=
    variant_of_parse rfl rfl rfl rfl rfl
  have hc := variant_insert ["--line", "2"] ["q.sql"] ["--check"] [.check] rfl rfl (by decide)
    (by decide) rfl rfl
  have hi := variant_insert ["--line", "2", "q.sql"] [] ["-i"] [.inPlace] rfl rfl (by decide)
    (by decide) rfl rfl
  have hb := variant_insert [] ["--line", "2", "q.sql"] ["-i", "--check"] [.inPlace, .check] rfl rfl
    (by decide) (by decide) rfl rfl
  have hasks : ¬AsksForText (oneFile "a (\nb\n)" true) ["--line", "2", "q.sql"] := by
    rintro ⟨text, htext⟩
    have hargs : arguments (oneFile "a (\nb\n)" true).probe ["--line", "2", "q.sql"] =
        .ok { file := "q.sql", line := some 2 } := by decide +kernel
    cases hargs.symm.trans htext
  obtain ⟨path, loc, f, t, -, -, hout, -, hcheck, hboth, hwrite⟩ :=
    (run_modes_agree (h := oneFile "a (\nb\n)" true) (fun _ _ _ => rfl) rfl hp hc hi hb).2
      (.inl (by decide +kernel)) hasks
  refine ⟨by decide +kernel, by decide +kernel, loc, f, t, ?_, hcheck, hboth, ?_⟩
  · exact hout Toolkit.standard_showsPlain (.inl rfl)
  · exact hwrite (oneFile_mayWrite _ _ _)

/-- A text with a control sequence is printed without it, and yet a check finds nothing to
change. -/
theorem run_check_accepts_unprinted :
    let h := oneFile "\x1b[31mselect 1\n" false
    (run h ["q.sql"]).exitCode = 0 ∧ (run h ["--check", "q.sql"]).exitCode = 0 ∧
      Text.Utf8.encode (run h ["q.sql"]).output.toList ≠
        Text.Utf8.encode "\x1b[31mselect 1\n".toList := by
  refine ⟨?_, ?_, ?_⟩
  · decide +kernel
  · decide +kernel
  · decide +kernel

end Ample
end SqlMargin.Command
