import SqlMargin.Proofs.Command.Modes
import SqlMargin.Proofs.Indent.Repetition
import SqlMargin.Proofs.Settings.Discovery

/-! Writing back once is enough. A run that puts the indented content in place leaves a disk on
which words lead to the same file and the same settings, even where a configuration file is a link
to that file, and on which the file is what it is indented to. -/
namespace SqlMargin

/-! The disk that is left. -/

/-- Whether a user may read a file hangs on its permissions and its owner, and on its group unless
it is the user's own. -/
lemma Mode.mayRead_congr {m m' : Mode} {u : User} (hbits : m.bits % 512 = m'.bits % 512)
    (howner : m.owner = m'.owner) (hgroup : m.group = m'.group ∨ u.id = m.owner) :
    m.mayRead u = m'.mayRead u := by
  have hbit (n : Nat) {k : Nat} (hk : k < 9) : n.testBit k = (n % 512).testBit k := by
    rw [show 512 = 2 ^ 9 from rfl, Nat.testBit_mod_two_pow]
    simp [hk]
  have hsame {k : Nat} (hk : k < 9) : m.bits.testBit k = m'.bits.testBit k := by
    rw [hbit m.bits hk, hbit m'.bits hk, hbits]
  unfold mayRead allows
  dsimp only
  rw [← howner]
  by_cases hown : u.id = m.owner
  · rw [if_pos hown, if_pos hown, hsame (by decide)]
  · rw [if_neg hown, if_neg hown, hgroup.resolve_right hown]
    split
    · rw [hsame (by decide)]
    · rw [hsame (by decide)]

/-- A file that is put in another one's place can be read like that, unless its owner could not be
kept and it may not be read by its new owner. -/
lemma Mode.Replaces.mayRead_eq {new old : Mode} {u : User} {plan : Plan}
    (h : new.Replaces old u plan) (hold : old.mayRead u = true)
    (hkeeps : plan .setOwner = none ∨ ({ old with owner := u.id } : Mode).mayRead u = true) :
    new.mayRead u = old.mayRead u := by
  rcases h.owner with ⟨howner, hgroup⟩ | ⟨hrefused, howner⟩
  · exact mayRead_congr h.bits howner (.inl hgroup)
  · rw [hold, ← hkeeps.resolve_left hrefused]
    exact mayRead_congr h.bits howner (.inr howner.symm)

lemma Disk.Gains.alike {d d' : Disk} {loc : List String} {f f' : File} {u : User}
    (h : d.Gains d' loc f') (hf : d.node? loc = some (.file f)) (halike : f.Alike u f') :
    d.Alike u d' := by
  intro l
  by_cases hl : l = loc
  · subst hl
    exact .inr ⟨f, f', halike, hf, h.file⟩
  · exact .inl (h.others l hl).symm

lemma Disk.Alike.probe {v : View} {d : Disk} (h : v.disk.Alike v.user d) :
    v.probe = (v.on d).probe := by
  funext path
  unfold View.probe
  rcases h.node true path with hsame | ⟨loc, f, f', hf, hnode, hnode'⟩
  · rw [hsame]
    rfl
  · rw [hnode, hnode']
    exact congrArg Probe.file hf.mayRead

namespace Command

section Alike

variable {h : Host} {d : Disk} (halike : h.disk.Alike h.user d)

include halike

lemma target_alike (raw : String) : target h h.toView raw = target h (h.toView.on d) raw := by
  unfold target
  rw [Disk.Alike.sqlFile (v := h.toView) halike]

lemma effective_alike {p : Path} {overrides : List (String × Value)} {s : Settings}
    (heffective : effective h h.toView p overrides = .ok s) :
    effective h (h.toView.on d) p overrides = .ok s := by
  have hbuild : Settings.build h.toView h.configReadable p.parent overrides = .ok s := by
    unfold effective at heffective
    split at heffective
    · next s' hs' =>
      cases heffective
      exact hs'
    all_goals cases heffective
  unfold effective
  rw [Settings.build_alike (v := h.toView) halike h.configReadable hbuild]

end Alike

/-- The host on which words have run, with a plan for the next run. -/
def Host.after [Memory] (h : Host) (words : List String) (plan : Plan) : Host :=
  { h with disk := (run h words).disk, plan }

/-- The size of the file that words name, and the limit on it. -/
def Host.sizeAndLimit? (h : Host) (words : List String) : Option (Nat × Int) := do
  let a ← (h.kit.arguments h.probe words).toOption
  let path ← (target h h.toView a.file).toOption
  let settings ← (effective h h.toView path a.overrides).toOption
  let style ← settings.check.toOption
  let limit ← (sizeLimit h.sizeSetting style.maxSize).toOption
  let (_, f) ← (h.fileAt path).toOption
  return (f.bytes.length, limit)

/-- The file that words name is not larger than it may be. -/
def Host.WithinLimit (h : Host) (words : List String) : Prop :=
  ∀ m ∈ h.sizeAndLimit? words, (m.1 : Int) ≤ m.2

/-- The file that words name keeps its owner when it is replaced, or may be read by its owner if
that is the user. -/
def Host.KeepsReading (h : Host) (words : List String) : Prop :=
  h.plan .setOwner = none ∨ ∀ path loc f, h.Names words path loc f →
    ({ f.mode with owner := h.user.id } : Mode).mayRead h.user = true

section Second

variable {h : Host} {words : List String} {x : Findings} {f : File} {d : Disk}

/-- What words lead to is the same on a disk that is alike. -/
lemma Aim.Of.alike {a : Aim} {plan : Plan} (ha : a.Of h words) (halike : h.disk.Alike h.user d) :
    a.Of { h with disk := d, plan } words where
  arguments := by
    rw [← ha.arguments]
    exact congrArg (h.kit.arguments · words) (Disk.Alike.probe (v := h.toView) halike).symm
  path := (target_alike halike a.arguments.file).symm.trans ha.path
  settings := effective_alike halike ha.settings
  style := ha.style

/-- The indented content makes the disk one that is alike. -/
lemma Findings.At.alike [Memory] (hx : x.At h) (hgains : h.disk.Gains d x.loc f)
    (hbytes : f.bytes = Text.Utf8.encode x.content.after)
    (hread : f.mode.mayRead h.user = x.file.mode.mayRead h.user) : h.disk.Alike h.user d := by
  obtain ⟨-, t, hdecode, hkept⟩ := Style.indented_again hx.content
  refine hgains.alike (View.node_eq_ok_iff.1 (View.fileAt_eq_ok_iff.1 hx.file)).2 ⟨hread.symm, ?_⟩
  rw [hdecode, hbytes, Text.Utf8.decode_encode]
  exact .ok hkept

/-- With the indented content in place, it is found, and is what it is indented to. -/
lemma Findings.At.again [Memory] (plan : Plan) (hx : x.At h) (hgains : h.disk.Gains d x.loc f)
    (hbytes : f.bytes = Text.Utf8.encode x.content.after)
    (hread : f.mode.mayRead h.user = x.file.mode.mayRead h.user)
    (hsize : (h.toView.on d).fileAt x.path = .ok (x.loc, f) → (f.bytes.length : Int) ≤ x.limit) :
    ∃ content : Indented, content.after = content.before ∧
      { x with file := f, content : Findings }.At { h with disk := d, plan } := by
  obtain ⟨⟨log, hagain⟩, -⟩ := Style.indented_again hx.content
  obtain ⟨hloc, -⟩ := View.node_eq_ok_iff.1 (View.fileAt_eq_ok_iff.1 hx.file)
  rw [Disk.Alike.locate (v := h.toView) (hx.alike hgains hbytes hread)] at hloc
  have hfile : (h.toView.on d).fileAt x.path = .ok (x.loc, f) :=
    View.fileAt_eq_ok_iff.2 (View.node_eq_ok_iff.2 ⟨hloc, hgains.file⟩)
  refine ⟨⟨x.content.after, x.content.after, log⟩, rfl, hx.limit, hfile, hsize hfile, ?_, ?_⟩
  · exact hread.trans hx.mayRead
  · change x.style.indented x.path f.bytes _ = _
    rw [hbytes, hagain]

/-- The size and the limit are those of what words lead to. -/
lemma sizeAndLimit?_eq {a : Aim} {limit : Int} {loc : List String} (ha : a.Of h words)
    (hlimit : sizeLimit h.sizeSetting a.style.maxSize = .ok limit)
    (hfile : h.fileAt a.path = .ok (loc, f)) :
    h.sizeAndLimit? words = some (f.bytes.length, limit) := by
  unfold Host.sizeAndLimit?
  simp only [ha.arguments, ha.path, ha.settings, ha.style, hlimit, hfile, Except.toOption,
    Option.bind_eq_bind, Option.bind_some]
  rfl

end Second

/-! The first run. -/

/-- A run in place that exits with zero leaves the indented content in the file. -/
lemma Findings.At.concludes [Memory] {h : Host}
    (hidle : ∀ moment path d, h.writers moment path d = d)
    {x : Findings} (hx : x.At h) (check : Bool) {s : Progress} (hs : s.disk = h.disk) :
    ∃ r s', (conclude h check true x.path x.examined).run.run s = (r, s') ∧
      ((∃ notice, r = .error (.refused notice)) ∨ ∃ code, r = .ok (code, "") ∧
        (code = 0 → ∃ f, h.disk.Gains s'.disk x.loc f ∧
          f.bytes = Text.Utf8.encode x.content.after ∧
          f.mode.Replaces x.file.mode h.user h.plan)) := by
  have hnode := (View.node_eq_ok_iff.1 (View.fileAt_eq_ok_iff.1 hx.file)).2
  -- Where nothing changes, the file has that content already.
  have hsame {s' : Progress} (hbytes : Text.Utf8.encode x.content.after = x.file.bytes)
      (hdisk : s'.disk = h.disk) : ∃ f, h.disk.Gains s'.disk x.loc f ∧
        f.bytes = Text.Utf8.encode x.content.after ∧ f.mode.Replaces x.file.mode h.user h.plan :=
    ⟨x.file, by rw [hdisk]; exact .refl hnode, hbytes.symm, .refl _ _ _⟩
  cases check with
  | true =>
    obtain ⟨s', hcheck, hkept⟩ := conclude_check h true x.path hx.of s
    refine ⟨_, s', hcheck, .inr ⟨_, rfl, fun hcode => hsame ?_ (hkept.trans hs)⟩⟩
    by_contra hne
    simp [Findings.examined, hne] at hcode
  | false =>
    unfold conclude
    simp only [Bool.false_eq_true, Bool.not_true, if_false]
    split
    · obtain ⟨s', hwrite, hdisk⟩ := exists_run_writeBack hidle x.path x.examined s
      rw [hs] at hwrite hdisk
      rcases hreplace : (h.toView.on h.disk).replaceContent h.plan x.path x.examined.content.after
        x.examined.after x.examined.before with ⟨e | _, disk, warnings⟩
      · rw [hreplace] at hwrite
        exact ⟨_, s', run_bind_error hwrite _, .inl ⟨_, rfl⟩⟩
      · rw [hreplace] at hwrite hdisk
        refine ⟨_, s', run_bind_ok hwrite _, .inr ⟨0, rfl, fun _ => ?_⟩⟩
        rw [hdisk]
        exact View.gains_replaceContent (v := h.toView.on h.disk) hx.file hreplace
    · next hunchanged =>
      exact ⟨_, s, rfl, .inr ⟨0, rfl, fun _ =>
        hsame (not_not.1 (mt hx.of.changed_iff.2 hunchanged)) hs⟩⟩

/-! The runs that follow. -/

/-- A text that is asked for is all that a run comes to, which exits with zero if the output takes
it. -/
lemma run_of_told [Memory] {h : Host} {q : List String} {text : String}
    (hrun : (perform h q).run.run { disk := h.disk } = (.error (.told text), { disk := h.disk })) :
    (run h q).disk = h.disk ∧ (run h q).Printed h text := by
  unfold run
  rw [hrun]
  exact ⟨Report.printing_disk _ h text, Report.printed_printing rfl rfl rfl h text⟩

lemma Report.Printed.exitCode_eq_zero_iff {r : Report} {h : Host} {text : String}
    (hr : r.Printed h text) : r.exitCode = 0 ↔ text = "" ∨ h.outputFault text = none := by
  unfold Printed at hr
  split at hr
  · next hok => exact iff_of_true hr.1 hok
  · next hfault => exact iff_of_false (by simp [hr.1]) hfault

/-- Where the content is what it is indented to, checking and writing back are content with it. -/
lemma conclude_unchanged (h : Host) {check inPlace : Bool} (hmode : (check || inPlace) = true)
    (path : Path) {y : Examined} (hy : y.content.after = y.content.before) :
    conclude h check inPlace path y = pure (0, "") := by
  have hchanged : (y.content.after != y.content.before) = false := by simp [hy]
  unfold conclude
  rw [hchanged]
  cases check with
  | true => rfl
  | false =>
    rw [Bool.false_or] at hmode
    rw [hmode]
    rfl

/-- With no one else writing: where words lead to a file that is what it is indented to, checking
and writing back exit with zero and leave the disk as it is. -/
theorem run_of_unchanged [Memory] {h : Host} {p q : List String} {check inPlace : Bool}
    {x : Findings}
    (hidle : ∀ moment path d, h.writers moment path d = d) (haim : x.Of h p) (hx : x.At h)
    (hsame : x.content.after = x.content.before) (hmode : (check || inPlace) = true)
    (hq : h.kit.Variant p q check inPlace) : (run h q).exitCode = 0 ∧ (run h q).disk = h.disk := by
  obtain ⟨s, hattempt, hs⟩ := gives_attempt hidle haim hx { disk := h.disk } rfl
  have hperform := perform_of_attempt_ok hattempt hq
  rw [conclude_unchanged h hmode x.path (y := x.examined) hsame] at hperform
  obtain ⟨hlast, hcode, -⟩ := run_of_ok hperform
  exact ⟨hcode rfl, hlast.trans hs⟩

/-- With no one else writing: if a run in place exits with zero, whichever calls of a replacement
may have failed on the way, and the file is then not larger than it may be and still open to
reading, then every run that follows with the same options, checking or in place, exits with zero
and leaves the disk as it is, whichever calls would fail. So a check finds nothing to change, and
writing back again writes nothing. -/
theorem run_inPlace_converges [Memory] {h : Host} {i : List String} {check : Bool}
    (hidle : ∀ moment path d, h.writers moment path d = d) (hi : h.kit.Variant i i check true)
    (hzero : (run h i).exitCode = 0) (hkeeps : h.KeepsReading i) (plan : Plan)
    (hsize : (h.after i plan).WithinLimit i) {q : List String} {check' inPlace' : Bool}
    (hmode : (check' || inPlace') = true) (hq : h.kit.Variant i q check' inPlace') :
    (run (h.after i plan) q).exitCode = 0 ∧
      (run (h.after i plan) q).disk = (h.after i plan).disk := by
  by_cases hasks : AsksForText h i
  · obtain ⟨text, htext⟩ := hasks
    obtain ⟨hdisk, hprinted⟩ := run_of_told (perform_of_attempt_error (run_attempt_told htext) hi)
    -- The disk is the same, so the same text is asked for, and the output takes it again.
    have hview : (h.after i plan).toView = h.toView := by
      unfold Host.after
      rw [hdisk]
    have htext' : h.kit.arguments (h.after i plan).probe i = .error (.told text) := by
      rw [hview]
      exact htext
    obtain ⟨hdisk', hprinted'⟩ :=
      run_of_told (h := h.after i plan) (perform_of_attempt_error (run_attempt_told htext') hq)
    exact ⟨hprinted'.exitCode_eq_zero_iff.2 (hprinted.exitCode_eq_zero_iff.1 hzero), hdisk'⟩
  rcases attempt_findings hidle hasks with ⟨e, s', hattempt, -, htold⟩ | hfound
  · exact absurd hzero ((run_of_error (perform_of_attempt_error hattempt hi)).2 htold).1
  · obtain ⟨x, s, hattempt, hs, haim, hx⟩ := hfound
    have hperform := perform_of_attempt_ok hattempt hi
    obtain ⟨r, s', hconclude, ⟨notice, rfl⟩ | ⟨code, rfl, hgains⟩⟩ := hx.concludes hidle check hs
    · exact absurd hzero ((run_of_error (hperform.trans hconclude)).2 fun _ => nofun).1
    · obtain ⟨hdisk, hcode, -⟩ := run_of_ok (hperform.trans hconclude)
      obtain ⟨f, hgains, hbytes, hreplaces⟩ := hgains ((hcode rfl).symm.trans hzero)
      rw [← hdisk] at hgains
      have hread : f.mode.mayRead h.user = x.file.mode.mayRead h.user :=
        hreplaces.mayRead_eq hx.mayRead (hkeeps.imp_right fun hown => hown _ _ _ (hx.names haim))
      have haim' : x.Of (h.after i plan) i := haim.alike (hx.alike hgains hbytes hread)
      have hlimit : (h.after i plan).fileAt x.path = .ok (x.loc, f) →
          (f.bytes.length : Int) ≤ x.limit := fun hfile =>
        hsize _ (sizeAndLimit?_eq haim' hx.limit hfile)
      obtain ⟨content, hsame, hx'⟩ := hx.again plan hgains hbytes hread hlimit
      exact run_of_unchanged (x := { x with file := f, content }) hidle haim' hx' hsame hmode hq

/-- A file that belongs to someone else and is open to all others, in a directory where the user may
replace it but not give it back. -/
def othersFile : Host where
  disk := { nodes := [(["q.sql"], .file ⟨Text.Utf8.encode "a (\nb".toList,
    { bits := 0o044, owner := 2000, group := 2000 }, 1, 0, 0, 0⟩)] }
  cwd := []
  kit := .standard
  homes := { own := some "/" }
  plan
    | .setOwner => some .notPermitted
    | _ => none

/-- A file with settings beside it, which are not open to reading at first. -/
def lateSettings : Host where
  disk := { nodes := [
    (["q.sql"], .file ⟨Text.Utf8.encode "a (\nb".toList, .plainFile, 1, 0, 0, 0⟩),
    ([".sql-indent.toml"], .file ⟨Text.Utf8.encode "[sql-indent]\nindent_offset = 2\n".toList,
      .plainFile, 2, 0, 0, 0⟩)] }
  cwd := []
  kit := .standard
  homes := { own := some "/" }
  configReadable := false

section Ample

attribute [local instance] Memory.ample

/-- A file that comes to belong to a user who may not read it is not found again, and settings that
come to be read only afterwards indent a file otherwise. -/
theorem run_inPlace_unsettled :
    let h := othersFile.after ["-i", "q.sql"] .sound
    let g := { lateSettings.after ["-i", "q.sql"] .sound with configReadable := true }
    ((run othersFile ["-i", "q.sql"]).exitCode = 0 ∧
      (h.fileAt (.ofLocation ["q.sql"])).map (·.2.bytes.length) = .ok 9 ∧
      (run h ["--check", "q.sql"]).exitCode = 2) ∧
    (run lateSettings ["-i", "q.sql"]).exitCode = 0 ∧
      (g.fileAt (.ofLocation ["q.sql"])).map (·.2.bytes.length) = .ok 9 ∧
      (run g ["--check", "q.sql"]).exitCode = 1 := by
  refine ⟨⟨?_, ?_, ?_⟩, ?_, ?_, ?_⟩
  all_goals decide +kernel

end Ample
/-- A disk on which a file is its own configuration. -/
def ownSettings : Host where
  disk := { nodes := [
    (["q.sql"], .file ⟨Text.Utf8.encode "[sql-indent] # (\n  tab_width=8".toList, .plainFile,
      1, 0, 0, 0⟩),
    ([".sql-indent.toml"], .link "q.sql")] }
  cwd := []
  kit := .standard
  homes := { own := some "/" }

section Ample

attribute [local instance] Memory.ample

/-- The configuration is read again after it was indented itself, and no space is left then. -/
theorem run_inPlace_converges_own_settings :
    let h' := ownSettings.after ["-i", "q.sql"] fun _ => some .noSpace
    (run ownSettings ["--check", "q.sql"]).exitCode = 1 ∧
    (run ownSettings ["-i", "q.sql"]).exitCode = 0 ∧
    h'.sizeAndLimit? ["-i", "q.sql"] = some (28, 10485760) ∧
    (run h' ["--check", "q.sql"]).exitCode = 0 ∧
    (run h' ["-i", "q.sql"]).exitCode = 0 ∧ (run h' ["-i", "q.sql"]).disk = h'.disk := by
  have hi : Toolkit.standard.Variant ["-i", "q.sql"] ["-i", "q.sql"] false true :=
    variant_of_parse rfl rfl rfl rfl rfl
  have hc : Toolkit.standard.Variant ["-i", "q.sql"] ["--check", "q.sql"] true false :=
    variant_of_parse rfl rfl rfl rfl rfl
  have hzero : (run ownSettings ["-i", "q.sql"]).exitCode = 0 := by decide +kernel
  have hsize : (ownSettings.after ["-i", "q.sql"] fun _ => some .noSpace).sizeAndLimit?
      ["-i", "q.sql"] = some (28, 10485760) := by decide +kernel
  have hwithin : (ownSettings.after ["-i", "q.sql"] fun _ => some .noSpace).WithinLimit
      ["-i", "q.sql"] := by
    rw [Host.WithinLimit, hsize]
    rintro _ ⟨⟩
    decide
  have hagain {q : List String} {check inPlace : Bool} (hmode : (check || inPlace) = true)
      (hq : Toolkit.standard.Variant ["-i", "q.sql"] q check inPlace) :=
    run_inPlace_converges (h := ownSettings) (fun _ _ _ => rfl) hi hzero (.inl rfl) _ hwithin hmode hq
  exact ⟨by decide +kernel, hzero, hsize, (hagain rfl hc).1, hagain rfl hi⟩

end Ample

end Command
end SqlMargin
