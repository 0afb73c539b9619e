import SqlMargin.Command.Options
import SqlMargin.Command.Run

/-! The command on the files of a machine. What stands on the way to the file named and to its
configuration files is copied to a disk, the command runs on that disk, and the file that it changed
is written back. -/
namespace SqlMargin.Machine

/-- A location as the machine takes it. -/
def textOf (loc : List String) : String := (Path.ofLocation loc).text

/-- What the machine tells of a location, without following a link there. -/
def look (loc : List String) : IO (Option IO.FS.Metadata) := do
  let here ← IO.currentDir
  try return some (← (here / textOf loc).symlinkMetadata) catch _ => return none

def nanoseconds (t : IO.FS.SystemTime) : Int := t.sec * 1000000000 + t.nsec.toNat

def fileOf (loc : List String) (m : IO.FS.Metadata) (inode : Nat) : IO File := do
  let bytes := (← IO.FS.readBinFile (textOf loc)).toList
  let modified := nanoseconds m.modified
  return { bytes, mode := .plainFile, inode, modified, accessed := nanoseconds m.accessed }

/-- Copies what stands on the way along names from a directory, as far as there is something. A link
is copied as one to the location where it ends. -/
partial def explore (d : Disk) (here : List String) : List String → IO Disk
  | [] => pure d
  | "" :: rest => explore d here rest
  | "." :: rest => explore d here rest
  | ".." :: rest => explore d here.dropLast rest
  | name :: rest => do
    let there := here ++ [name]
    match ← look there with
    | none => pure d
    | some m =>
      match m.type with
      | .dir => explore (d.put there (.directory .plainDirectory)) there rest
      | .symlink =>
        let target := (← IO.FS.realPath (textOf there)).toString
        explore (d.put there (.link target)) [] (Path.names target ++ rest)
      | .file =>
        let file ← fileOf there m d.nextInode
        pure { d.put there (.file file) with nextInode := d.nextInode + 1 }
      | .other => pure d

/-- Copies what a path leads to, if it can be read. -/
def copy (d : Disk) (cwd : List String) (path : Path) : IO Disk := do
  let start := if path.isAbsolute then [] else cwd
  try explore d start path.parts catch _ => pure d

/-- The configuration files of a directory and of those above it. -/
def configurations (directory : Path) : List Path :=
  (directory :: directory.parents).flatMap fun d => Settings.sources.map fun s => d.child s.file

/-- The home directories that a table of users lists, one user a line. -/
def homesIn (table : String) (name : String) : Option String :=
  (table.splitOn "\n").findSome? fun line =>
    match line.splitOn ":" with
    | user :: _ :: _ :: _ :: _ :: home :: _ => if user = name then some home else none
    | _ => none

/-- One's own home directory, and those in the machine's table of users. -/
def homes : IO Homes := do
  let own ← IO.getEnv "HOME"
  try
    let table ← IO.FS.readFile "/etc/passwd"
    return { own, ofUser := homesIn table }
  catch _ => return { own }

/-- What the command needs to know of the machine to work on the file named. -/
def host (words : List String) : IO Command.Host := do
  let cwd := (Path.ofString (← IO.currentDir).toString).parts
  let homes ← homes
  let sizeSetting ← IO.getEnv sizeVariable
  let mut disk ← copy {} cwd (.ofLocation cwd)
  if let .ok { others := raw :: _, .. } := Command.parse words then
    let written := Path.ofString raw
    disk ← copy disk cwd written
    if let .ok path := written.expandHome homes then
      disk ← copy disk cwd path
      if let .ok target := View.resolve { disk, cwd } true path then
        for file in configurations target.parent do
          disk ← copy disk cwd file
  let outputOnTerminal ← (← IO.getStdout).isTty
  let errorsOnTerminal ← (← IO.getStderr).isTty
  let kit := Command.Toolkit.standard
  return { disk, cwd, kit, homes, sizeSetting, outputOnTerminal, errorsOnTerminal }

/-- Writes the files that a run changed. One that is no longer as it was read is left alone. -/
def store (before after : Disk) : IO (Except FileFault Unit) := do
  for (loc, node) in after.nodes do
    if let (.file new, some (.file old)) := (node, before.node? loc) then
      if new.bytes ≠ old.bytes then
        if (← IO.FS.readBinFile (textOf loc)).toList ≠ old.bytes then
          return .error (.changed (textOf loc))
        IO.FS.writeBinFile (textOf loc) ⟨new.bytes.toArray⟩
  return .ok ()

end SqlMargin.Machine

open SqlMargin in
/-- Re-indents the SQL file named on the command line. -/
def main (words : List String) : IO UInt32 := do
  let host ← Machine.host words
  let _ := Memory.ample
  let report := Command.run host words
  IO.print report.output
  IO.eprint report.errors
  if let some crash := report.crash then IO.eprintln crash.message
  match ← Machine.store host.disk report.disk with
  | .ok () => return report.exitCode.toUInt32
  | .error fault =>
    IO.eprintln ("Error: " ++ fault.message)
    return 1
