import SqlMargin.Proofs.Command.Inspection
import SqlMargin.Proofs.Files.Replacement

/-! Updates by others while a file is worked on. The file is looked at before it is read, after
that, and again before it is replaced. As long as every change gives it a state that it never had
before, a run that finds the same state each time has read what is still there, and a run in whose
course the file was changed writes nothing. -/
namespace SqlMargin

/-- A disk after changes, each of which is told by the disk it leaves. -/
def Disk.after (d : Disk) (changes : List Disk) : Disk := changes.getLast?.getD d

lemma Disk.after_append (d : Disk) (changes more : List Disk) :
    d.after (changes ++ more) = (d.after changes).after more := by
  simp [after, List.getLast?_append]

namespace Command

namespace Task

variable {α β : Type}

/-- Work that starts from a stage: what it finds, and the stage then, are told by `found`. Where it
ends early, the stage is told by `stop`. -/
def Takes (stop : Stage → Prop) (start : Stage) (work : Task α) (found : α → Stage → Prop) : Prop :=
  ∀ s, s.stage = start → Leads s work (fun a t => found a t.stage) fun _ t => stop t.stage

namespace Takes

variable {stop : Stage → Prop} {start : Stage} {found : α → Stage → Prop}
  {foundNext : β → Stage → Prop}

lemma pure {a : α} (h : found a start) : Takes stop start (Pure.pure a) found := by
  rintro s rfl
  exact h

lemma throw {e : Ending} (h : stop start) :
    Takes stop start (MonadExcept.throw e : Task α) found := by
  rintro s rfl
  exact h

/-- Others take their turn. -/
lemma pause (h : Host) (p : Path) (moment : Pause) :
    Takes stop start (Task.pause h p moment) fun _ stage =>
      stage = (h.writers moment p start.1, start.2 ++ [moment]) := by
  rintro s rfl
  rfl

/-- The disk is changed. -/
lemma put (disk : Disk) :
    Takes stop start (modify fun s => { s with disk }) fun _ stage => stage = (disk, start.2) := by
  rintro s rfl
  rfl

lemma bind {work : Task α} {next : α → Task β} (hwork : Takes stop start work found)
    (hnext : ∀ a stage, found a stage → Takes stop stage (next a) foundNext) :
    Takes stop start (work >>= next) foundNext :=
  fun s hs => (hwork s hs).bind fun a t ht => hnext a t.stage ht t rfl

lemma imp {work : Task α} {found' : α → Stage → Prop} (hwork : Takes stop start work found)
    (himp : ∀ a stage, found a stage → found' a stage) : Takes stop start work found' :=
  fun s hs => (hwork s hs).imp (fun a t => himp a t.stage) fun _ _ => id

/-- What is found is found by a run. -/
lemma traced {work : Task α} (hwork : Takes stop start work found) :
    Takes stop start work fun a stage => found a stage ∧
      ∃ s t, s.stage = start ∧ work.run.run s = (.ok a, t) ∧ t.stage = stage := by
  intro s hs
  have hw := hwork s hs
  unfold Leads at hw ⊢
  rcases h : work.run.run s with ⟨e | a, t⟩
  · rwa [h] at hw
  · rw [h] at hw
    exact ⟨hw, s, t, hs, h, rfl⟩

/-- Work that changes nothing and lets no moment pass. -/
lemma reads {work : Task α} {read : α → Prop} (hwork : Reads (· = start) work read)
    (hstop : stop start) : Takes stop start work fun a stage => stage = start ∧ read a := by
  intro s hs
  obtain ⟨hstage, hread⟩ := hwork s hs
  unfold Leads
  rcases h : work.run.run s with ⟨e | a, t⟩
  · rw [h] at hstage
    exact hstage ▸ hstop
  · rw [h] at hstage hread
    exact ⟨hstage, hread⟩

lemma bind_reads {work : Task α} {next : α → Task β} {read : α → Prop}
    (hwork : Reads (· = start) work read) (hstop : stop start)
    (hnext : ∀ a, read a → Takes stop start (next a) foundNext) :
    Takes stop start (work >>= next) foundNext := by
  refine (reads hwork hstop).bind ?_
  rintro a stage ⟨rfl, ha⟩
  exact hnext a ha

/-- The disk is looked at. -/
lemma bind_view {h : Host} {next : View → Task β} (hstop : stop start)
    (hnext : Takes stop start (next (h.toView.on start.1)) foundNext) :
    Takes stop start (Task.view h >>= next) foundNext := by
  refine bind_reads (.view h fun _ hstage => congrArg (·.1) hstage) hstop ?_
  rintro _ rfl
  exact hnext

end Takes
end Task

/-- An examination that came to something, by what was on the disk when the file was first looked
at, when it was read, and when it was looked at again. -/
structure Examined.Saw [Memory] (x : Examined) (h : Host) (a : Aim) (first read last : Disk) :
    Prop where
  before : (h.toView.on first).stat a.path = .ok x.before
  content : ∃ bytes, (h.toView.on read).readBytes a.path = .ok bytes ∧
    a.style.indented a.path bytes (a.arguments.line.map (· - 1)) = .ok x.content
  after : (h.toView.on last).stat a.path = .ok x.after
  same : x.before.stamp = x.after.stamp

lemma ensureUnchanged_eq_ok_iff {expected current : Stat} {p : Path} {u : Unit} :
    expected.ensureUnchanged current p = .ok u ↔ expected.stamp = current.stamp := by
  unfold Stat.ensureUnchanged
  rw [ite_eq_ok_iff, and_iff_left rfl]

/-- Examining a file, whatever others do meanwhile. -/
lemma takes_examine [Memory] (h : Host) (a : Aim) {first read last : Disk} {stop : Stage → Prop}
    (hread : h.writers .afterLook a.path first = read)
    (hlast : h.writers .afterRead a.path read = last)
    (hstop : stop (first, []) ∧ stop (read, [.afterLook]) ∧ stop (last, [.afterLook, .afterRead])) :
    Task.Takes stop (first, []) (examine h a.path a.style (a.arguments.line.map (· - 1)))
      fun x stage => stage = (last, [.afterLook, .afterRead]) ∧ x.Saw h a first read last := by
  subst hread hlast
  obtain ⟨hfirst, hsecond, hthird⟩ := hstop
  refine .bind_reads (.orFail h _ _) hfirst fun limit _ => .bind_view hfirst ?_
  refine .bind_reads (.orFail h _ _) hfirst fun before hbefore => ?_
  refine .bind_reads (.orFail h _ _) hfirst fun _ _ => .bind (.pause h _ _) ?_
  rintro _ _ rfl
  refine .bind_view hsecond (.bind_reads (.orFail h _ _) hsecond fun bytes hbytes => ?_)
  refine .bind (.pause h _ _) ?_
  rintro _ _ rfl
  refine .bind_reads (reads_placed h _) hthird fun content hcontent => .bind_view hthird ?_
  refine .bind_reads (.orFail h _ _) hthird fun after hafter => ?_
  refine .bind_reads (.orFail h _ _) hthird fun _ hsame => .pure ⟨rfl, ?_⟩
  exact ⟨hbefore, ⟨bytes, hbytes, hcontent⟩, hafter, ensureUnchanged_eq_ok_iff.1 hsame⟩

/-- Writing back, whatever others do before. -/
lemma takes_writeBack {h : Host} {p : Path} {x : Examined} {start : Stage} {stop : Stage → Prop}
    (hstop : ∀ current, h.writers .afterCheck p start.1 = current →
      stop (current, start.2 ++ [.afterCheck]) ∧
      stop (((h.toView.on current).replaceContent h.plan p x.content.after x.after x.before).disk,
        start.2 ++ [.afterCheck])) :
    Task.Takes stop start (writeBack h p x) fun _ => stop := by
  obtain ⟨hcurrent, hreplaced⟩ := hstop _ rfl
  refine .bind (.pause h _ _) ?_
  rintro _ _ rfl
  refine .bind_view hcurrent ?_
  dsimp only
  generalize View.replaceContent _ _ _ _ _ _ = done at hreplaced
  refine .bind (.put done.disk) ?_
  rintro _ _ rfl
  refine .bind_reads (.forM (fun _ => .say _) _) hreplaced fun _ _ => ?_
  refine (Task.Takes.reads (.orFail h _ _) hreplaced).imp ?_
  rintro _ _ ⟨rfl, -⟩
  exact hreplaced

/-- Whatever is done with a file, only writing back touches the disk. -/
lemma takes_conclude {h : Host} {p : Path} {x : Examined} {start : Stage} {stop : Stage → Prop}
    (check inPlace : Bool) (hstart : stop start)
    (hstop : ∀ current, h.writers .afterCheck p start.1 = current →
      stop (current, start.2 ++ [.afterCheck]) ∧
      stop (((h.toView.on current).replaceContent h.plan p x.content.after x.after x.before).disk,
        start.2 ++ [.afterCheck])) :
    Task.Takes stop start (conclude h check inPlace p x) fun _ => stop := by
  unfold conclude
  dsimp only
  split
  · split
    · exact .bind_reads (.say _) hstart fun _ _ => .pure hstart
    · exact .pure hstart
  · split
    · exact .pure hstart
    · split
      · exact .bind (takes_writeBack hstop) fun _ _ hend => .pure hend
      · exact .pure hstart

/-! Turns of others. -/

/-- What others make of the disk at each moment of a run: the disks that their changes leave, one
after another. -/
abbrev Turns := Pause → List Disk

/-- The moments of a run, in order. -/
def moments : List Pause := [.afterLook, .afterRead, .afterCheck]

def Turns.all (turns : Turns) : List Disk := moments.flatMap turns

/-- A host where others take their turns. -/
def Host.amid (h : Host) (turns : Turns) : Host :=
  { h with writers := fun moment _ d => d.after (turns moment) }

/-- The stage at which moments have passed and only others have changed the disk. -/
def Host.stageAfter (h : Host) (turns : Turns) (passed : List Pause) : Stage :=
  (h.disk.after (passed.flatMap turns), passed)

/-- What tells the state of a file on a disk, if it is there. -/
def Host.stampOn (h : Host) (p : Path) (d : Disk) : Option Stamp :=
  ((h.toView.on d).stat p).toOption.map (·.stamp)

/-- Each change of the disk gives the file a state that it never had before. -/
def Turns.Fresh (turns : Turns) (h : Host) (p : Path) : Prop :=
  ((h.disk :: turns.all).filterMap (h.stampOn p)).Nodup

lemma Host.stageAfter_concat (h : Host) (turns : Turns) (passed : List Pause) (moment : Pause) :
    h.stageAfter turns (passed ++ [moment]) =
      ((h.stageAfter turns passed).1.after (turns moment), passed ++ [moment]) := by
  unfold stageAfter
  rw [List.flatMap_append, Disk.after_append, List.flatMap_singleton]

lemma Host.stampOn_of_stat {h : Host} {p : Path} {d : Disk} {s : Stat}
    (hs : (h.toView.on d).stat p = .ok s) : h.stampOn p d = some s.stamp := by
  rw [stampOn, hs]
  rfl

/-- A file that is in its first state has not been changed. -/
lemma eq_nil_of_stampOn {h : Host} {p : Path} {changes more : List Disk} {stamp : Stamp}
    (hfresh : ((h.disk :: (changes ++ more)).filterMap (h.stampOn p)).Nodup)
    (hfirst : h.stampOn p h.disk = some stamp)
    (hlast : h.stampOn p (h.disk.after changes) = some stamp) : changes = [] := by
  rcases List.eq_nil_or_concat changes with hnil | ⟨before, d, rfl⟩
  · exact hnil
  · rw [List.concat_eq_append] at hfresh hlast
    have hd : h.disk.after (before ++ [d]) = d := by simp [Disk.after]
    rw [hd] at hlast
    rw [List.filterMap_cons_some hfirst, List.nodup_cons] at hfresh
    refine absurd ?_ hfresh.1
    exact List.mem_filterMap.2 ⟨d, by simp, hlast⟩

/-- A run comes to its last comparison with what it has made of the file, and finds the file there
in the state that it expects. -/
def Passes [Memory] (h : Host) (a : Aim) (x : Examined) (f : File) : Prop :=
  ∃ s t loc, s.stage = (h.disk, []) ∧
    (examine h a.path a.style (a.arguments.line.map (· - 1))).run.run s = (.ok x, t) ∧
    h.plan .lookUp = none ∧
    (h.toView.on (h.writers .afterCheck a.path t.disk)).fileAt a.path = .ok (loc, f) ∧
    x.after.ensureUnchanged f.stat a.path = .ok ()

section Amid

variable {h : Host} {turns : Turns} {a : Aim} {x : Examined} {f : File}

lemma takes_examine_amid [Memory] (h : Host) (turns : Turns) (a : Aim) (stop : Stage → Prop)
    (hstop : ∀ passed, passed <+: moments → stop (h.stageAfter turns passed)) :
    Task.Takes stop (h.disk, [])
      (examine (h.amid turns) a.path a.style (a.arguments.line.map (· - 1))) fun x stage =>
        stage = h.stageAfter turns [.afterLook, .afterRead] ∧
        x.Saw h a h.disk (h.disk.after (turns .afterLook)) stage.1 := by
  have hlook : h.stageAfter turns [.afterLook] = (h.disk.after (turns .afterLook), [.afterLook]) :=
    h.stageAfter_concat turns [] .afterLook
  have hread : h.stageAfter turns [.afterLook, .afterRead] =
      ((h.disk.after (turns .afterLook)).after (turns .afterRead), [.afterLook, .afterRead]) := by
    have hconcat := h.stageAfter_concat turns [.afterLook] .afterRead
    rwa [hlook] at hconcat
  have hstages : stop (h.disk, []) ∧ stop (h.disk.after (turns .afterLook), [.afterLook]) ∧
      stop ((h.disk.after (turns .afterLook)).after (turns .afterRead), [.afterLook, .afterRead]) :=
    ⟨hstop [] List.nil_prefix, hlook ▸ hstop _ (by decide), hread ▸ hstop _ (by decide)⟩
  refine (takes_examine (h.amid turns) a rfl rfl hstages).imp ?_
  rintro x _ ⟨rfl, hbefore, hcontent, hafter, hsame⟩
  exact ⟨hread.symm, hbefore, hcontent, hafter, hsame⟩

/-- A run passes its last comparison only if no one has changed the file, and then it is about to
write the indentation of what the file holds. -/
lemma Passes.unchanged [Memory] (hpass : Passes (h.amid turns) a x f)
    (hfresh : turns.Fresh h a.path) :
    turns.all = [] ∧
      a.style.indented a.path f.bytes (a.arguments.line.map (· - 1)) = .ok x.content := by
  obtain ⟨s, t, loc, hs, hrun, -, hfile, hsame⟩ := hpass
  have hexamine := takes_examine_amid h turns a (fun _ => True) (fun _ _ => trivial) s hs
  obtain ⟨ht, hbefore, ⟨bytes, hbytes, hcontent⟩, hafter, hstamps⟩ := hexamine.of_ok hrun
  have hfirst := Host.stampOn_of_stat hbefore
  have hall : turns.all = turns .afterLook ++ turns .afterRead ++ turns .afterCheck := by
    simp [Turns.all, moments]
  have hdisk : t.disk = h.disk.after (turns .afterLook ++ turns .afterRead) := by
    have hstage : t.disk = _ := congrArg (·.1) ht
    simpa [Host.stageAfter] using hstage
  -- The state after reading is the first one, so nothing was changed up to there.
  have hread : turns .afterLook ++ turns .afterRead = [] := by
    have hfresh' := hfresh
    rw [Turns.Fresh, hall] at hfresh'
    refine eq_nil_of_stampOn hfresh' hfirst ?_
    rw [← hdisk, hstamps]
    exact Host.stampOn_of_stat hafter
  rw [hread] at hdisk
  rw [hread, List.nil_append] at hall
  -- It is still the state that the last comparison finds.
  have hfile' : (h.toView.on (h.disk.after (turns .afterCheck))).fileAt a.path = .ok (loc, f) := by
    rw [hdisk] at hfile
    exact hfile
  have hcheck : turns .afterCheck = [] := by
    have hfresh' := hfresh
    rw [Turns.Fresh, hall, ← List.append_nil (turns .afterCheck)] at hfresh'
    refine eq_nil_of_stampOn hfresh' hfirst ?_
    rw [hstamps, ensureUnchanged_eq_ok_iff.1 hsame]
    refine Host.stampOn_of_stat ?_
    rw [View.stat, hfile']
    rfl
  refine ⟨hall.trans hcheck, ?_⟩
  rw [hcheck] at hfile'
  rw [(List.append_eq_nil_iff.1 hread).1] at hbytes
  obtain ⟨-, rfl⟩ := (View.readBytes_eq_ok_iff hfile').1 hbytes
  exact hcontent

/-- Arguments lead to a file and its examination. -/
lemma takes_inspect [Memory] {stop : Stage → Prop} {words : List String} {args : Arguments}
    (hargs : h.kit.arguments h.probe words = .ok args)
    (hstop : ∀ passed, passed <+: moments → stop (h.stageAfter turns passed)) :
    Task.Takes stop (h.disk, []) (inspect (h.amid turns) args) fun y stage =>
      stage = h.stageAfter turns [.afterLook, .afterRead] ∧
      ∃ a, Aim.Of a h words ∧ y.1 = a.path ∧ ∃ s t, s.stage = (h.disk, []) ∧ t.stage = stage ∧
        (examine (h.amid turns) a.path a.style (a.arguments.line.map (· - 1))).run.run s =
          (.ok y.2, t) := by
  have hstart : stop (h.disk, []) := hstop [] List.nil_prefix
  refine .bind_view hstart ?_
  refine .bind_reads (.lift (target_ne_told _ _ _)) hstart fun path hpath => ?_
  refine .bind_reads (.lift (effective_ne_told _ _ _ _)) hstart fun settings hsettings => ?_
  refine .bind_reads (.orFail _ _ _) hstart fun style hstyle => ?_
  refine .bind_reads (.logIf _ _) hstart fun _ _ => ?_
  let a : Aim := ⟨args, path, settings, style⟩
  refine (takes_examine_amid h turns a stop hstop).traced.bind ?_
  rintro x _ ⟨⟨rfl, -⟩, s, t, hs, hrun, ht⟩
  refine .bind_reads (.logIf _ _) (hstop _ (by decide)) fun _ _ => .pure ⟨rfl, a, ?_⟩
  exact ⟨⟨hargs, hpath, hsettings, hstyle⟩, rfl, s, t, hs, ht, hrun⟩

/-- How a run leaves the disk: as the others have left it, with all that they have done by then and
nothing else, or with the file replaced after the last comparison. -/
def Leaves [Memory] (h : Host) (turns : Turns) (words : List String) (stage : Stage) : Prop :=
  stage.2 <+: moments ∧ stage = h.stageAfter turns stage.2 ∨
    ∃ a x f, Aim.Of a h words ∧ Passes (h.amid turns) a x f ∧ stage.2 = moments ∧
      stage.1 = ((h.toView.on (h.disk.after turns.all)).replaceContent h.plan a.path x.content.after
        x.after x.before).disk

lemma takes_perform [Memory] (h : Host) (turns : Turns) (words : List String) :
    Task.Takes (Leaves h turns words) (h.disk, []) (perform (h.amid turns) words) fun _ =>
      Leaves h turns words := by
  have hstop : ∀ passed, passed <+: moments → Leaves h turns words (h.stageAfter turns passed) :=
    fun passed hpassed => .inl ⟨hpassed, rfl⟩
  have hstart : Leaves h turns words (h.disk, []) := hstop [] List.nil_prefix
  refine .bind_view hstart ?_
  change Task.Takes _ _ (liftM (h.kit.arguments h.probe words) >>= _) _
  cases hargs : h.kit.arguments h.probe words with
  | error e =>
    have hthrow : Task.Takes (Leaves h turns words) (h.disk, []) (throw e : Task Arguments)
        fun _ _ => False := .throw hstart
    exact hthrow.bind fun _ _ => nofun
  | ok args =>
    change Task.Takes _ _ (pure args >>= _) _
    rw [pure_bind]
    refine .bind (takes_inspect hargs hstop) ?_
    rintro ⟨path, x⟩ _ ⟨rfl, a, haim, rfl, s, t, hs, ht, hrun⟩
    refine takes_conclude _ _ (hstop _ (by decide)) fun current hcurrent => ?_
    have hall : (current, moments) = h.stageAfter turns moments := by
      rw [← hcurrent]
      exact (h.stageAfter_concat turns [.afterLook, .afterRead] .afterCheck).symm
    obtain rfl : current = h.disk.after turns.all := congrArg (·.1) hall
    refine ⟨hall ▸ hstop _ (List.prefix_refl _), ?_⟩
    rcases View.replaceContent_starts (h.toView.on (h.disk.after turns.all)) h.plan a.path
      x.content.after x.after x.before with ⟨hkept, -⟩ | ⟨hlook, loc, f, hfile, hsame⟩
    · refine .inl ⟨List.prefix_refl _, Prod.ext hkept rfl⟩
    · refine .inr ⟨a, x, f, haim, ⟨s, t, loc, hs, hrun, hlook, ?_, hsame⟩, rfl, rfl⟩
      have hdisk : t.disk = _ := congrArg (·.1) ht
      rw [hdisk, hcurrent]
      exact hfile

/-- The stage that a run has come to at its end. -/
def Report.stage (r : Report) : Stage := (r.disk, r.passed)

lemma run_stage [Memory] (h : Host) (words : List String) :
    (run h words).stage = ((perform h words).run.run { disk := h.disk }).2.stage := by
  unfold run Report.stage
  rcases (perform h words).run.run { disk := h.disk } with ⟨e | ⟨code, text⟩, s⟩
  · cases e with
    | told text => simp [Progress.stage]
    | _ => rfl
  · simp [Progress.stage]

/-- Others may change the file that a run works on at any moment between its steps, any number of
times. If the run passes its last comparison, then no one has changed the file since it was first
looked at, and what is about to be written is the indentation of what the file holds. The run writes
in no other case. So if anyone changes the file, the disk is as the others have left it: all that
they have done at the moments that the run came to is there, and nothing else. -/
theorem run_loses_no_update [Memory] {h : Host} {turns : Turns} {words : List String}
    (hfresh : ∀ a, Aim.Of a h words → turns.Fresh h a.path) :
    let r := run (h.amid turns) words
    (∀ a x f, Aim.Of a h words → Passes (h.amid turns) a x f →
      turns.all = [] ∧
        a.style.indented a.path f.bytes (a.arguments.line.map (· - 1)) = .ok x.content) ∧
      Leaves h turns words r.stage ∧
      (turns.all ≠ [] →
        r.passed <+: moments ∧ r.disk = h.disk.after (r.passed.flatMap turns)) := by
  intro r
  have hpass : ∀ a x f, Aim.Of a h words → Passes (h.amid turns) a x f →
      turns.all = [] ∧
        a.style.indented a.path f.bytes (a.arguments.line.map (· - 1)) = .ok x.content :=
    fun a x f haim hpass => hpass.unchanged (hfresh a haim)
  have hleaves : Leaves h turns words r.stage := by
    have htakes := takes_perform h turns words { disk := h.disk } rfl
    rw [run_stage]
    change Leaves h turns words ((perform (h.amid turns) words).run.run { disk := h.disk }).2.stage
    rcases hrun : (perform (h.amid turns) words).run.run { disk := h.disk } with ⟨e | r, s⟩
    · exact htakes.of_error hrun
    · exact htakes.of_ok hrun
  refine ⟨hpass, hleaves, fun hturns => ?_⟩
  rcases hleaves with ⟨hpassed, hstage⟩ | ⟨a, x, f, haim, hpassed, -⟩
  · exact ⟨hpassed, congrArg (·.1) hstage⟩
  · exact absurd (hpass a x f haim hpassed).1 hturns

end Amid

/-- A host with one file, which was written at some time. -/
def writtenAt (time : Int) (text : String) : Host where
  disk := { nodes := [(["q.sql"], .file ⟨Text.Utf8.encode text.toList, .plainFile, 1, 0, time, 0⟩)] }
  cwd := []
  kit := .standard
  homes := { own := some "/" }

/-- Others add a line after the file was read. -/
def lateLine : Turns
  | .afterRead => [(writtenAt 1 "a (\nb\n)\nc").disk]
  | _ => []

section Ample

attribute [local instance] Memory.ample

/-- A line that someone adds after the file was read stays, and the run fails. Without it, the run
passes its last comparison. -/
theorem run_loses_no_update_lateLine :
    let h := writtenAt 0 "a (\nb\n)"
    ((run (h.amid lateLine) ["-i", "q.sql"]).exitCode = 1 ∧
      (run (h.amid lateLine) ["-i", "q.sql"]).disk = (writtenAt 1 "a (\nb\n)\nc").disk) ∧
      ∃ a x f, Passes (h.amid fun _ => []) a x f ∧
        a.style.indented a.path f.bytes (a.arguments.line.map (· - 1)) = .ok x.content := by
  intro h
  have hpath : ∀ a, Aim.Of a h ["-i", "q.sql"] → a.path = .ofLocation ["q.sql"] := by
    intro a haim
    have hargs : h.kit.arguments h.probe ["-i", "q.sql"] =
        .ok { file := "q.sql", inPlace := true } := by decide +kernel
    have htarget : target h h.toView "q.sql" = .ok (.ofLocation ["q.sql"]) := by
      decide +kernel
    have hfound := haim.path
    rw [← Except.ok.inj (hargs.symm.trans haim.arguments), htarget] at hfound
    exact (Except.ok.inj hfound).symm
  constructor
  · have hfresh : ∀ a, Aim.Of a h ["-i", "q.sql"] → lateLine.Fresh h a.path := by
      intro a haim
      rw [Turns.Fresh, hpath a haim]
      decide +kernel
    have hpassed : (run (h.amid lateLine) ["-i", "q.sql"]).passed = [.afterLook, .afterRead] := by
      decide +kernel
    refine ⟨by decide +kernel, ?_⟩
    rw [((run_loses_no_update hfresh).2.2 (by simp [Turns.all, moments, lateLine])).2, hpassed]
    rfl
  · have hfresh : ∀ a, Aim.Of a h ["-i", "q.sql"] → Turns.Fresh (fun _ => []) h a.path := by
      intro a haim
      rw [Turns.Fresh, hpath a haim]
      decide +kernel
    have hwritten : (run (h.amid fun _ => []) ["-i", "q.sql"]).disk.node? ["q.sql"] ≠
        h.disk.node? ["q.sql"] := by decide +kernel
    obtain ⟨hpass, ⟨-, hstage⟩ | ⟨a, x, f, haim, hpassed, -⟩, -⟩ := run_loses_no_update hfresh
    · have hnothing (passed : List Pause) :
          h.stageAfter (fun _ => []) passed = (h.disk, passed) := by
        have hnil : passed.flatMap (fun _ => ([] : List Disk)) = [] :=
          List.flatMap_eq_nil_iff.2 fun _ _ => rfl
        rw [Host.stageAfter, hnil]
        rfl
      rw [hnothing] at hstage
      exact absurd (congrArg (·.1.node? ["q.sql"]) hstage) hwritten
    · exact ⟨a, x, f, hpassed, (hpass a x f haim hpassed).2⟩

end Ample

end Command
end SqlMargin
