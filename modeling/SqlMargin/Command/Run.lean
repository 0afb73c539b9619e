import SqlMargin.Command.Toolkit
import SqlMargin.Files.Indented
import SqlMargin.Files.Replacement
import SqlMargin.Settings.SizeLimit

/-! Running the command: it prints a file indented, tells whether indenting would change it, or
puts the indented content in its place. -/
namespace SqlMargin.Command

/-- The moments of a run between which others may write: after the file was first looked at, after
it was read, and after it was found unchanged. -/
inductive Pause where
  | afterLook
  | afterRead
  | afterCheck
  deriving DecidableEq, Repr

/-- Where the command runs: what is stored, and who sees it from where; the library for command
lines; what the environment says; which calls of a replacement fail; what others write meanwhile;
which streams a terminal shows, and why the output does not take a text, if it does not. -/
structure Host extends View where
  kit : Toolkit
  homes : Homes
  sizeSetting : Option String := none
  configReadable : Bool := true
  plan : Plan := .sound
  writers : Pause → Path → Disk → Disk := fun _ _ d => d
  outputOnTerminal : Bool := false
  errorsOnTerminal : Bool := false
  outputFault : String → Option String := fun _ => none

/-- What a run leaves: its exit code, its output, the disk, the moments that it came to, the error
that it ended with, and why its text was not printed. -/
structure Report where
  exitCode : Nat
  output : String := ""
  errors : String := ""
  disk : Disk
  passed : List Pause
  crash : Option Crash := none
  unprinted : Option String := none

/-- A run under way: the disk, the lines on the error stream, and the moments passed. -/
structure Progress where
  disk : Disk
  errors : List String := []
  passed : List Pause := []

abbrev Task := ExceptT Ending (StateM Progress)

namespace Task

def say (line : String) : Task Unit := modify fun s => { s with errors := s.errors ++ [line] }

/-- Writes a line of the log, whatever it holds. -/
def log (m : Diagnostic) : Task Unit := say m.render

/-- Writes a line of the log if one is kept. -/
def logIf (debug : Bool) (m : Diagnostic) : Task Unit := if debug then log m else pure ()

/-- Writes a line for the user. -/
def tell (h : Host) (line : String) : Task Unit := say (h.kit.shown h.errorsOnTerminal line)

def view (h : Host) : Task View := return h.toView.on (← get).disk

/-- Others get their turn while file `p` is worked on. -/
def pause (h : Host) (p : Path) (moment : Pause) : Task Unit :=
  modify fun s =>
    { s with disk := h.writers moment p s.disk, passed := s.passed ++ [moment] }

/-- Ends the run with a message if something failed. -/
def orFail {ε α : Type} (h : Host) (message : ε → String) : Except ε α → Task α
  | .ok a => pure a
  | .error e => throw (.refused (h.kit.failure (message e)))

end Task

/-- The location of the file to work on. -/
def target (h : Host) (v : View) (raw : String) : Except Ending Path :=
  match v.sqlFile h.homes raw (.ofLocation h.cwd) with
  | .ok p => .ok p
  | .error f =>
    .error (if f.isRefusal then .refused (h.kit.wrongFile f.message) else .crashed (.path f))

/-- The settings for the file to work on. -/
def effective (h : Host) (v : View) (p : Path) (overrides : List (String × Value)) :
    Except Ending Settings :=
  match Settings.build v h.configReadable p.parent overrides with
  | .ok s => .ok s
  | .error .tooDeep => .error (.crashed (.search .tooDeep))
  | .error (.loop q) => .error (.crashed (.search (.loop q)))
  | .error (.system f) => .error (.crashed (.search (.system f)))
  | .error (.name f) => .error (.crashed (.search (.name f)))
  | .error (.unreadable .tooDeep) => .error (.crashed (.search (.unreadable .tooDeep)))
  | .error f => .error (.refused (h.kit.wrongFile f.message))

/-- The content of a file as it was indented. A line that could not be placed ends the run, after
the messages about the lines before. -/
def placed (h : Host) : Except IndentedFault Indented → Task Indented
  | .ok content => do
    content.log.forM Task.log
    pure content
  | .error (.failed fault log) => do
    log.forM Task.log
    throw (.crashed (.indent fault))
  | .error fault => throw (.refused (h.kit.failure fault.message))

/-- A file read and indented, and its states before and after. -/
structure Examined where
  content : Indented
  before : Stat
  after : Stat

/-- Reads and indents a file that is not too large, and refuses one that changed meanwhile. -/
def examine [Memory] (h : Host) (p : Path) (style : Style) (line : Option Int) : Task Examined := do
  let limit ← Task.orFail h SizeFault.message (sizeLimit h.sizeSetting style.maxSize)
  let before ← Task.orFail h FileFault.message ((← Task.view h).stat p)
  Task.orFail h FileFault.message (before.enforceSize limit p)
  Task.pause h p .afterLook
  let bytes ← Task.orFail h FileFault.message ((← Task.view h).readBytes p)
  Task.pause h p .afterRead
  let content ← placed h (style.indented p bytes line)
  let after ← Task.orFail h FileFault.message ((← Task.view h).stat p)
  Task.orFail h FileFault.message (before.ensureUnchanged after p)
  pure ⟨content, before, after⟩

/-- Writes the indented content to the file. -/
def writeBack (h : Host) (p : Path) (r : Examined) : Task Unit := do
  Task.pause h p .afterCheck
  let done := (← Task.view h).replaceContent h.plan p r.content.after r.after r.before
  modify fun s => { s with disk := done.disk }
  done.warnings.forM (Task.tell h)
  Task.orFail h FileFault.message done.outcome

/-- Finds the file named, reads it and indents its content. -/
def inspect [Memory] (h : Host) (a : Arguments) : Task (Path × Examined) := do
  let v ← Task.view h
  let path ← (target h v a.file : Except Ending Path)
  let settings ← (effective h v path a.overrides : Except Ending Settings)
  let style ← Task.orFail h Settings.Problem.message settings.check
  Task.logIf style.debug .verbose
  let found ← examine h path style (a.line.map (· - 1))
  Task.logIf style.debug (.fileDone path.text (found.content.after != found.content.before))
  pure (path, found)

/-- Tells whether the file would change, prints it, or writes it; the answer is the exit code and
the text to print. -/
def conclude (h : Host) (check inPlace : Bool) (path : Path) (found : Examined) :
    Task (Nat × String) :=
  let changed := found.content.after != found.content.before
  if check then
    if changed then do
      Task.tell h s!"{path.text} would be re-indented"
      pure (1, "")
    else pure (0, "")
  else if !inPlace then pure (0, h.kit.shown h.outputOnTerminal (String.ofList found.content.after))
  else do
    if changed then writeBack h path found
    pure (0, "")

/-- Does what was asked for. -/
def perform [Memory] (h : Host) (words : List String) : Task (Nat × String) := do
  let v ← Task.view h
  let a ← (h.kit.arguments v.probe words : Except Ending Arguments)
  let (path, found) ← inspect h a
  conclude h a.check a.inPlace path found

/-- Prints a text at the end of a run, if there is any. -/
def Report.printing (r : Report) (h : Host) (text : String) : Report :=
  if text = "" then r
  else match h.outputFault text with
    | none => { r with output := text }
    | some message => { r with exitCode := 1, unprinted := some message }

/-- Runs the command. -/
def run [Memory] (h : Host) (words : List String) : Report :=
  let (outcome, s) := (perform h words).run.run { disk := h.disk }
  let errors := String.join (s.errors.map (· ++ "\n"))
  let report : Report := { exitCode := 0, errors, disk := s.disk, passed := s.passed }
  match outcome with
  | .ok (exitCode, text) => { report with exitCode }.printing h text
  | .error (.told text) => report.printing h text
  | .error (.refused notice) =>
    let shown := h.kit.shown h.errorsOnTerminal notice.text
    { report with exitCode := notice.exitCode, errors := errors ++ shown }
  | .error (.crashed c) => { report with exitCode := 1, crash := some c }

end SqlMargin.Command
