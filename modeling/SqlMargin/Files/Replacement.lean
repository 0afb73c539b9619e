import SqlMargin.Files.Guard

/-! Replacing the content of a file in one step: the new content is written to a file of its own
beside it, which then takes its place. Any system call on the way may fail; then the file beside is
taken away. -/
namespace SqlMargin

/-- The system calls of a replacement, in the order in which they are made. -/
inductive Call where
  | lookUp
  | create
  | write
  | sync
  | setMode
  | setOwner
  | rename
  | lookAgain
  | setTimes
  deriving DecidableEq, Repr

/-- Which of the calls fail, and how. -/
abbrev Plan := Call → Option Errno

/-- No call fails. -/
def Plan.sound : Plan := fun _ => none

namespace Disk

/-- A name that no node has. -/
def freshName (d : Disk) : String :=
  let longest := (d.nodes.flatMap (·.1)).foldl (fun n s => max n s.length) 0
  String.ofList (['t', 'm', 'p'] ++ List.replicate longest '_')

/-- Changes a file. -/
def updateFile (d : Disk) (loc : List String) (f : File → File) : Disk :=
  match d.node? loc with
  | some (.file file) => d.put loc (.file (f file))
  | _ => d

/-- Makes an empty file for a user, and for no one else. -/
def create (d : Disk) (u : User) (loc : List String) (device : Nat) : Disk :=
  let mode : Mode := .ofNew u (d.directoryMode loc.dropLast)
  let file : File :=
    { bytes := [], mode, inode := d.nextInode, device, modified := d.clock, accessed := d.clock }
  { d.put loc (.file file) with nextInode := d.nextInode + 1, clock := d.clock + 1 }

/-- Moves a node to another location, in place of what stood there. -/
def rename (d : Disk) (source target : List String) : Disk :=
  match d.node? source with
  | some n => (d.remove source).put target n
  | none => d

end Disk

/-- A replacement under way: the disk, the file beside the target while there is one, and what to
warn of. -/
structure Attempt where
  disk : Disk
  beside : Option (List String) := none
  warnings : List String := []

/-- Takes away the file beside the target, if it is still there. -/
def Attempt.cleanUp (a : Attempt) : Attempt :=
  match a.beside with
  | none => a
  | some loc => { a with disk := a.disk.remove loc, beside := none }

/-- Part of a replacement, which a failing call ends. -/
abbrev Attempting := ExceptT Errno (StateM Attempt)

namespace Attempting

/-- Makes a call, with its effect on the disk. -/
def call (plan : Plan) (c : Call) (effect : Disk → Disk) : Attempting Unit :=
  match plan c with
  | some e => throw e
  | none => modify fun a => { a with disk := effect a.disk }

/-- Gives the new file to the owner and the group of the old one, which takes the rights from it
that it would run with. If that is not permitted it is warned of. -/
def keepOwner (plan : Plan) (beside : List String) (expected : Mode) (warning : String) :
    Attempting Unit :=
  match plan .setOwner with
  | none =>
    let given (m : Mode) : Mode := { m with owner := expected.owner, group := expected.group }
    modify fun a => { a with
      disk := a.disk.updateFile beside fun f => { f with mode := (given f.mode).withoutRights } }
  | some e =>
    if e.isPermission then modify fun a => { a with warnings := a.warnings ++ [warning] }
    else throw e

/-- A file can be made only in a directory that may be changed. -/
def create (u : User) (plan : Plan) (loc : List String) (device : Nat) : Attempting Unit := do
  if ((← get).disk.directoryMode loc.dropLast).mayWrite u then
    call plan .create (·.create u loc device)
  else throw .noAccess

/-- Writes new content beside the target and puts it in its place. -/
def replaceFile (u : User) (plan : Plan) (target beside : List String) (bytes : List UInt8)
    (expected initial : Stat) (warning : String) : Attempting Unit := do
  create u plan beside expected.stamp.device
  modify fun a => { a with beside := some beside }
  call plan .write (·.updateFile beside fun f => { f with bytes })
  call plan .sync id
  call plan .setMode
    (·.updateFile beside fun f => { f with mode := f.mode.withBits u expected.mode.bits })
  keepOwner plan beside expected.mode warning
  call plan .rename (·.rename beside target)
  modify fun a => { a with beside := none }
  call plan .lookAgain id
  call plan .setTimes (·.updateFile target fun f => { f with accessed := initial.accessed })

end Attempting

/-- What is said when the new file belongs to someone else. -/
def ownerWarning (p : Path) : String :=
  s!"Warning: Could not keep the owner of {p.name} (needs elevated privileges)"

/-- What became of a replacement: its outcome, the disk after it, and what it warns of. -/
structure Replacement where
  outcome : Except FileFault Unit
  disk : Disk
  warnings : List String

/-- Writes new content in place of a file's, if the file is still in the state expected. Permissions
are those of the expected state, the time of access is that of the initial one. -/
def View.replaceContent (v : View) (plan : Plan) (p : Path) (content : List Char)
    (expected initial : Stat) : Replacement :=
  let current : Except FileFault (List String × File) := match plan .lookUp with
    | some e => .error (.inaccessible p.text ⟨e, some p.text⟩)
    | none => v.fileAt p
  match current with
  | .error f => ⟨.error f, v.disk, []⟩
  | .ok (target, file) =>
    match expected.ensureUnchanged file.stat p with
    | .error f => ⟨.error f, v.disk, []⟩
    | .ok () =>
      let beside := target.dropLast ++ [v.disk.freshName]
      let work := Attempting.replaceFile v.user plan target beside (Text.Utf8.encode content) expected
        initial (ownerWarning p)
      let (outcome, a) := work.run.run { disk := v.disk }
      let a := a.cleanUp
      ⟨outcome.mapError fun e => .unwritten p.text ⟨e, none⟩, a.disk, a.warnings⟩

end SqlMargin
