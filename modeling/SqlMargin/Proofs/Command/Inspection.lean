import SqlMargin.Proofs.Command.Words
import SqlMargin.Proofs.Files.Disk

/-! A run of the command in two stages. First a file is found, read and indented; that leaves the
disk as it is and hangs on no mode flag. Only then does the mode come in. -/
namespace SqlMargin.Command

/-- The first stage, from words that may ask for something else. -/
def attempt [Memory] (h : Host) (words : List String) : Task (Path × Examined) := do
  let v ← Task.view h
  let a ← (h.kit.arguments v.probe words : Except Ending Arguments)
  inspect h a

/-- A run is the same up to its mode. -/
theorem perform_eq [Memory] {h : Host} {p q : List String} {check inPlace : Bool}
    (hq : h.kit.Variant p q check inPlace) :
    perform h q = attempt h p >>= fun x => conclude h check inPlace x.1 x.2 := by
  unfold perform attempt
  rw [bind_assoc]
  refine bind_congr fun v => ?_
  rw [hq]
  cases h.kit.arguments v.probe p with
  | error e => rfl
  | ok a => rfl

@[simp] theorem Report.printing_disk (r : Report) (h : Host) (text : String) :
    (r.printing h text).disk = r.disk := by
  unfold printing
  split
  · rfl
  · split <;> rfl

@[simp] theorem Report.printing_passed (r : Report) (h : Host) (text : String) :
    (r.printing h text).passed = r.passed := by
  unfold printing
  split
  · rfl
  · split <;> rfl

/-- How far a run has come: what is on the disk, and the moments that have passed. -/
abbrev Stage := Disk × List Pause

def Progress.stage (s : Progress) : Stage := (s.disk, s.passed)

namespace Task

variable {α β : Type}

/-- Work that keeps what holds of the stage. What it finds is told by `found`; if it ends early,
then not because a text was asked for. -/
def Reads (kept : Stage → Prop) (work : Task α) (found : α → Prop) : Prop :=
  ∀ s, kept s.stage → kept (work.run.run s).2.stage ∧
    match (work.run.run s).1 with
    | .ok a => found a
    | .error e => ∀ text, e ≠ .told text

namespace Reads

variable {kept : Stage → Prop} {found : α → Prop} {foundNext : β → Prop}

lemma pure {a : α} (h : found a) : Reads kept (Pure.pure a) found := fun _ hs => ⟨hs, h⟩

lemma throw {e : Ending} (h : ∀ text, e ≠ .told text) :
    Reads kept (MonadExcept.throw e : Task α) found := fun _ hs => ⟨hs, h⟩

lemma bind {work : Task α} {next : α → Task β} (hwork : Reads kept work found)
    (hnext : ∀ a, found a → Reads kept (next a) foundNext) : Reads kept (work >>= next) foundNext := by
  intro s hs
  have hw := hwork s hs
  rw [run_bind]
  rcases h : work.run.run s with ⟨e | a, s'⟩
  · rwa [h] at hw
  · rw [h] at hw
    exact hnext a hw.2 s' hw.1

lemma say (line : String) : Reads kept (Task.say line) fun _ => True := fun _ hs => ⟨hs, trivial⟩

lemma view (h : Host) {d : Disk} (hkept : ∀ stage, kept stage → stage.1 = d) :
    Reads kept (Task.view h) (· = h.toView.on d) :=
  fun _ hs => ⟨hs, congrArg h.toView.on (hkept _ hs)⟩

lemma pause {h : Host} {d : Disk} (hidle : ∀ moment p d, h.writers moment p d = d) (p : Path)
    (moment : Pause) : Reads (·.1 = d) (Task.pause h p moment) fun _ => True :=
  fun s hs => ⟨(hidle moment p s.disk).trans hs, trivial⟩

lemma orFail {ε : Type} (h : Host) (message : ε → String) (x : Except ε α) :
    Reads kept (Task.orFail h message x) (x = .ok ·) := by
  cases x with
  | error e => exact throw fun _ => nofun
  | ok a => exact pure rfl

lemma lift {x : Except Ending α} (h : ∀ text, x ≠ .error (.told text)) :
    Reads kept (liftM x : Task α) (x = .ok ·) := by
  cases x with
  | error e => exact throw fun text he => h text (congrArg Except.error he)
  | ok a => exact pure rfl

lemma forM {f : α → Task PUnit} (hf : ∀ a, Reads kept (f a) fun _ => True) (as : List α) :
    Reads kept (as.forM f) fun _ => True := by
  induction as with
  | nil => exact pure trivial
  | cons a as ih => exact bind (hf a) fun _ _ => ih

lemma logIf (debug : Bool) (m : Diagnostic) : Reads kept (Task.logIf debug m) fun _ => True := by
  cases debug with
  | false => exact pure trivial
  | true => exact say _

end Reads

/-- Work that comes to a result and leaves the disk as it is. -/
def Gives (d : Disk) (work : Task α) (a : α) : Prop :=
  ∀ s, s.disk = d → ∃ s', work.run.run s = (.ok a, s') ∧ s'.disk = d

namespace Gives

variable {d : Disk} {h : Host}

lemma pure (a : α) : Gives d (Pure.pure a) a := fun s hs => ⟨s, rfl, hs⟩

lemma bind {work : Task α} {next : α → Task β} {a : α} {b : β} (hwork : Gives d work a)
    (hnext : Gives d (next a) b) : Gives d (work >>= next) b := by
  intro s hs
  obtain ⟨s', hrun, hs'⟩ := hwork s hs
  obtain ⟨s'', hrun', hs''⟩ := hnext s' hs'
  exact ⟨s'', by rw [run_bind_ok hrun, hrun'], hs''⟩

lemma say (line : String) : Gives d (Task.say line) ⟨⟩ := fun _ hs => ⟨_, rfl, hs⟩

lemma view (h : Host) : Gives d (Task.view h) (h.toView.on d) := by
  intro s hs
  subst hs
  exact ⟨s, rfl, rfl⟩

lemma pause (hidle : ∀ moment p d, h.writers moment p d = d) (p : Path) (moment : Pause) :
    Gives d (Task.pause h p moment) ⟨⟩ := fun s hs => ⟨_, rfl, (hidle moment p s.disk).trans hs⟩

lemma orFail {ε : Type} (h : Host) (message : ε → String) {x : Except ε α} {a : α}
    (hx : x = .ok a) : Gives d (Task.orFail h message x) a := hx ▸ pure a

lemma lift {x : Except Ending α} {a : α} (hx : x = .ok a) : Gives d (liftM x : Task α) a :=
  hx ▸ pure a

lemma forM {f : α → Task PUnit} (hf : ∀ a, Gives d (f a) ⟨⟩) (as : List α) :
    Gives d (as.forM f) ⟨⟩ := by
  induction as with
  | nil => exact pure _
  | cons a as ih => exact bind (hf a) ih

lemma logIf (debug : Bool) (m : Diagnostic) : Gives d (Task.logIf debug m) ⟨⟩ := by
  cases debug with
  | false => exact pure _
  | true => exact say _

lemma placed (h : Host) {x : Except IndentedFault Indented} {content : Indented}
    (hx : x = .ok content) : Gives d (placed h x) content := by
  subst hx
  exact bind (forM (fun m => say m.render) content.log) (pure content)

end Gives
end Task

lemma target_ne_told (h : Host) (v : View) (raw text : String) :
    target h v raw ≠ .error (.told text) := by
  unfold target
  split
  · exact nofun
  · split_ifs <;> exact nofun

lemma effective_ne_told (h : Host) (v : View) (p : Path) (overrides : List (String × Value))
    (text : String) : effective h v p overrides ≠ .error (.told text) := by
  unfold effective
  split
  all_goals exact nofun

/-- What is indented is what the bytes stand for. -/
lemma decode_of_indented [Memory] {style : Style} {p : Path} {bytes : List UInt8}
    {line : Option Int}
    {content : Indented} (h : style.indented p bytes line = .ok content) :
    Text.Utf8.decode bytes = .ok content.before := by
  obtain ⟨text, hdecode, htext⟩ := bind_eq_ok_iff.1 h
  have hbefore : content.before = text := by
    unfold Style.indentedText at htext
    dsimp only at htext
    split at htext
    · split at htext <;> cases htext
      rfl
    · split at htext
      · cases htext
      · split at htext <;> cases htext
        rfl
  rw [hbefore]
  exact eq_ok_of_mapError_eq_ok hdecode

lemma reads_placed {kept : Stage → Prop} (h : Host) (x : Except IndentedFault Indented) :
    Task.Reads kept (placed h x) (x = .ok ·) := by
  match x with
  | .ok content => exact .bind (.forM (fun _ => .say _) content.log) fun _ _ => .pure rfl
  | .error (.failed fault log) =>
    exact .bind (.forM (fun _ => .say _) log) fun _ _ => .throw fun _ => nofun
  | .error (.settings _) | .error (.unreadable _) | .error (.undecodable ..)
  | .error (.noLine ..) | .error .hugeLine => exact .throw fun _ => nofun

/-- What words lead to: a file, and how it is to be indented. -/
structure Aim where
  arguments : Arguments
  path : Path
  settings : Settings
  style : Style

/-- Words lead to an aim. -/
structure Aim.Of (a : Aim) (h : Host) (words : List String) : Prop where
  arguments : h.kit.arguments h.probe words = .ok a.arguments
  path : target h h.toView a.arguments.file = .ok a.path
  settings : effective h h.toView a.path a.arguments.overrides = .ok a.settings
  style : a.settings.check = .ok a.style

/-- What is found at an aim. -/
structure Findings extends Aim where
  limit : Int
  loc : List String
  file : File
  content : Indented

/-- What an examination hands on. -/
def Findings.examined (x : Findings) : Examined := ⟨x.content, x.file.stat, x.file.stat⟩

/-- A host has what is found. -/
structure Findings.At [Memory] (x : Findings) (h : Host) : Prop where
  limit : sizeLimit h.sizeSetting x.style.maxSize = .ok x.limit
  file : h.fileAt x.path = .ok (x.loc, x.file)
  size : (x.file.bytes.length : Int) ≤ x.limit
  mayRead : x.file.mode.mayRead h.user = true
  content : x.style.indented x.path x.file.bytes (x.arguments.line.map (· - 1)) = .ok x.content

lemma enforceSize_eq_ok_iff {s : Stat} {limit : Int} {p : Path} {u : Unit} :
    s.enforceSize limit p = .ok u ↔ (s.stamp.size : Int) ≤ limit := by
  unfold Stat.enforceSize
  split
  · next hlt => simp [hlt]
  · next hle => simp [Int.not_lt.1 hle]

section Examine

variable [Memory] {h : Host} (hidle : ∀ moment p d, h.writers moment p d = d)

include hidle

/-- What an examination comes to, if it comes to something. -/
lemma reads_examine (a : Aim) :
    Task.Reads (·.1 = h.disk) (examine h a.path a.style (a.arguments.line.map (· - 1))) fun y =>
      ∃ x : Findings, x.toAim = a ∧ x.At h ∧ y = x.examined := by
  refine .bind (.orFail h _ _) fun limit hlimit => ?_
  refine .bind (.view h fun _ => id) fun v hv => .bind (.orFail h _ _) fun before hbefore => ?_
  refine .bind (.orFail h _ _) fun _ hsize => .bind (.pause hidle _ _) fun _ _ => ?_
  refine .bind (.view h fun _ => id) fun v' hv' => .bind (.orFail h _ _) fun bytes hbytes => ?_
  refine .bind (.pause hidle _ _) fun _ _ => .bind (reads_placed h _) fun content hcontent => ?_
  refine .bind (.view h fun _ => id) fun v'' hv'' => .bind (.orFail h _ _) fun after hafter => ?_
  refine .bind (.orFail h _ _) fun _ _ => .pure ?_
  subst hv hv' hv''
  obtain ⟨⟨loc, f⟩, hfile, rfl⟩ := exists_of_map_eq_ok hbefore
  obtain ⟨⟨loc', f'⟩, hfile', rfl⟩ := exists_of_map_eq_ok hafter
  rw [hfile] at hfile'
  cases hfile'
  obtain ⟨hread, rfl⟩ := (View.readBytes_eq_ok_iff hfile).1 hbytes
  exact ⟨⟨a, limit, loc, f, content⟩, rfl,
    ⟨hlimit, hfile, enforceSize_eq_ok_iff.1 hsize, hread, hcontent⟩, rfl⟩

lemma gives_examine {x : Findings} (hx : x.At h) :
    Task.Gives h.disk (examine h x.path x.style (x.arguments.line.map (· - 1))) x.examined := by
  have hstat : h.stat x.path = .ok x.file.stat := by
    rw [View.stat, hx.file]
    rfl
  have hsize : x.file.stat.enforceSize x.limit x.path = .ok () := enforceSize_eq_ok_iff.2 hx.size
  have hbytes := (View.readBytes_eq_ok_iff hx.file).2 ⟨hx.mayRead, rfl⟩
  have hsame : x.file.stat.ensureUnchanged x.file.stat x.path = .ok () := if_pos rfl
  refine .bind (.orFail h _ hx.limit) (.bind (.view h) (.bind (.orFail h _ hstat) ?_))
  refine .bind (.orFail h _ hsize) (.bind (.pause hidle _ _) (.bind (.view h) ?_))
  refine .bind (.orFail h _ hbytes) (.bind (.pause hidle _ _) (.bind (.placed h hx.content) ?_))
  exact .bind (.view h) (.bind (.orFail h _ hstat) (.bind (.orFail h _ hsame) (.pure _)))

/-- Words that do not ask for a text lead to a file, and to no change. -/
theorem reads_attempt {words : List String}
    (htold : ∀ text, h.kit.arguments h.probe words ≠ .error (.told text)) :
    Task.Reads (·.1 = h.disk) (attempt h words) fun y =>
      ∃ x : Findings, x.Of h words ∧ x.At h ∧ y = (x.path, x.examined) := by
  refine .bind (.view h fun _ => id) fun v hv => ?_
  subst hv
  refine .bind (.lift htold) fun args hargs => .bind (.view h fun _ => id) fun v hv => ?_
  subst hv
  refine .bind (.lift (target_ne_told _ _ _)) fun path hpath => ?_
  refine .bind (.lift (effective_ne_told _ _ _ _)) fun settings hsettings => ?_
  refine .bind (.orFail h _ _) fun style hstyle => .bind (.logIf _ _) fun _ _ => ?_
  refine .bind (reads_examine hidle ⟨args, path, settings, style⟩) fun y hy => ?_
  refine .bind (.logIf _ _) fun _ _ => .pure ?_
  obtain ⟨x, haim, hx, rfl⟩ := hy
  have haim' : x.toAim.Of h words := by
    rw [haim]
    exact ⟨hargs, hpath, hsettings, hstyle⟩
  exact ⟨x, haim', hx, by rw [haim]⟩

/-- Where there is something to be found, it is found. -/
theorem gives_attempt {x : Findings} {words : List String} (haim : x.Of h words) (hx : x.At h) :
    Task.Gives h.disk (attempt h words) (x.path, x.examined) := by
  refine .bind (.view h) (.bind (.lift haim.arguments) (.bind (.view h) ?_))
  refine .bind (.lift haim.path) (.bind (.lift haim.settings) (.bind (.orFail h _ haim.style) ?_))
  exact .bind (.logIf _ _) (.bind (gives_examine hidle hx) (.bind (.logIf _ _) (.pure _)))

end Examine

/-- What was found is what a file holds, and the file was the same before and after. -/
structure Examined.Of (x : Examined) (f : File) : Prop where
  before : x.before = f.stat
  after : x.after = f.stat
  decoded : Text.Utf8.decode f.bytes = .ok x.content.before

lemma Findings.At.of [Memory] {x : Findings} {h : Host} (hx : x.At h) : x.examined.Of x.file :=
  ⟨rfl, rfl, decode_of_indented hx.content⟩

/-- The file that words name, and its location. -/
def Host.Names (h : Host) (words : List String) (path : Path) (loc : List String) (f : File) :
    Prop :=
  ∃ a, h.kit.arguments h.probe words = .ok a ∧ target h h.toView a.file = .ok path ∧
    h.fileAt path = .ok (loc, f)

end SqlMargin.Command
