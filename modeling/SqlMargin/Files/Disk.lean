import SqlMargin.Files.Mode
import SqlMargin.Files.Path
import SqlMargin.Nesting

/-! Disks: files, directories and links, and how a path is followed to one of them. -/
namespace SqlMargin

/-- Why a system call fails. -/
inductive Errno where
  | notPermitted
  | noEntry
  | noAccess
  | notDirectory
  | isDirectory
  | noSpace
  | nameTooLong
  | loop
  | other (number : Nat) (text : String)
  deriving DecidableEq, Repr

namespace Errno

def number : Errno → Nat
  | .notPermitted => 1
  | .noEntry => 2
  | .noAccess => 13
  | .notDirectory => 20
  | .isDirectory => 21
  | .noSpace => 28
  | .nameTooLong => 36
  | .loop => 40
  | .other n _ => n

def text : Errno → String
  | .notPermitted => "Operation not permitted"
  | .noEntry => "No such file or directory"
  | .noAccess => "Permission denied"
  | .notDirectory => "Not a directory"
  | .isDirectory => "Is a directory"
  | .noSpace => "No space left on device"
  | .nameTooLong => "File name too long"
  | .loop => "Too many levels of symbolic links"
  | .other _ t => t

/-- Failures for want of permission. -/
def isPermission (e : Errno) : Bool := e.number == 1 || e.number == 13

end Errno

/-- Failures that only mean that there is no such file. -/
def isAbsence (e : Errno) : Bool := e == .noEntry || e == .notDirectory || e == .loop

/-- A regular file. Times are counted in nanoseconds. -/
structure File where
  bytes : List UInt8
  mode : Mode
  inode : Nat
  device : Nat := 0
  modified : Int
  accessed : Int
  deriving DecidableEq, Repr

inductive Node where
  | file (f : File)
  | directory (mode : Mode)
  | link (target : String)
  deriving DecidableEq, Repr

/-- What is stored, by the names from the root on, the number of the next file made, and the time of
the next write. -/
structure Disk where
  nodes : List (List String × Node) := []
  nextInode : Nat := 1
  clock : Int := 0

namespace Disk

/-- What stands at a location. The root is a directory. -/
def node? (d : Disk) (loc : List String) : Option Node :=
  if loc = [] then some (.directory .plainDirectory) else d.nodes.lookup loc

/-- The mode of the directory at a location. -/
def directoryMode (d : Disk) (loc : List String) : Mode :=
  match d.node? loc with
  | some (.directory m) => m
  | _ => .plainDirectory

/-- Whether a link stands at a location. -/
def hasLink (d : Disk) (loc : List String) : Bool :=
  match d.node? loc with
  | some (.link _) => true
  | _ => false

def remove (d : Disk) (loc : List String) : Disk :=
  { d with nodes := d.nodes.filter (·.1 != loc) }

/-- Puts a node at a location, in place of what stood there. -/
def put (d : Disk) (loc : List String) (n : Node) : Disk :=
  { d with nodes := (d.remove loc).nodes ++ [(loc, n)] }

/-- What stands elsewhere stays when a location is cleared. -/
theorem node?_remove (d : Disk) (loc l : List String) (h : l ≠ []) :
    (d.remove loc).node? l = if l = loc then none else d.node? l := by
  unfold node? remove
  rw [if_neg h, if_neg h]
  induction d.nodes with
  | nil => simp
  | cons e es ih =>
    obtain ⟨k, n⟩ := e
    by_cases hk : k = loc
    · subst hk
      by_cases hl : l = k
      · simpa [hl] using ih
      · simpa [List.lookup_cons, hl, beq_eq_false_iff_ne.2 hl] using ih
    · by_cases hl : l = k
      · subst hl
        simp [hk]
      · simpa [List.lookup_cons, hk, beq_eq_false_iff_ne.2 hl] using ih

theorem node?_put (d : Disk) (loc l : List String) (n : Node) (h : l ≠ []) :
    (d.put loc n).node? l = if l = loc then some n else d.node? l := by
  have hr := d.node?_remove loc l h
  unfold node? at hr ⊢
  rw [if_neg h] at hr ⊢
  unfold put
  rw [List.lookup_append, hr]
  by_cases hl : l = loc
  · simp [hl]
  · simp [List.lookup_cons, hl, beq_eq_false_iff_ne.2 hl, h]

/-- The longest name, in bytes. -/
def maxName : Nat := 255

/-- The longest path, in bytes. -/
def maxPath : Nat := 4095

/-- How many links are followed on the way to one node. -/
def maxLinks : Nat := 40

/-- Follows names from a directory up to the first link on the way; `jump` goes on from where that
leads. Each directory in which a name is looked up must be open to that. A link at the end is
followed only if `follow` is set. -/
def walkTo (d : Disk) (u : User) (follow : Bool)
    (jump : List String → List String → Except Errno (List String)) (here : List String) :
    List String → Except Errno (List String)
  | [] => .ok here
  | name :: rest =>
    if name = "" then d.walkTo u follow jump here rest
    else if !(d.directoryMode here).mayEnter u then .error .noAccess
    else if name = "." then d.walkTo u follow jump here rest
    else if name = ".." then d.walkTo u follow jump here.dropLast rest
    else if maxName < name.utf8ByteSize then .error .nameTooLong
    else
      let there := here ++ [name]
      match d.node? there with
      | none => .error .noEntry
      | some (.directory _) => d.walkTo u follow jump there rest
      | some (.file _) => if rest.isEmpty then .ok there else .error .notDirectory
      | some (.link target) =>
        if rest.isEmpty && !follow then .ok there
        else
          let start := if Path.anchorOf target != .here then [] else here
          jump start (Path.names target ++ rest)

/-- Follows names from a directory, and at most `links` links on the way. -/
def walk (d : Disk) (u : User) (follow : Bool) :
    Nat → List String → List String → Except Errno (List String)
  | 0 => d.walkTo u follow fun _ _ => .error .loop
  | links + 1 => d.walkTo u follow (d.walk u follow links)

end Disk

/-- A disk as it is seen by a user from a working directory. -/
structure View where
  disk : Disk
  cwd : List String
  user : User := {}
  nesting : Nesting := {}

/-- Why a path given to a system call leads nowhere. -/
inductive CallFault where
  /-- The path holds a null character. -/
  | nullByte
  | failed (e : Errno)
  deriving DecidableEq, Repr

namespace View

/-- The same view of another disk. -/
def on (v : View) (d : Disk) : View := { v with disk := d }

@[simp] theorem on_disk (v : View) (d : Disk) : (v.on d).disk = d := rfl

@[simp] theorem on_cwd (v : View) (d : Disk) : (v.on d).cwd = v.cwd := rfl

@[simp] theorem on_user (v : View) (d : Disk) : (v.on d).user = v.user := rfl

@[simp] theorem on_nesting (v : View) (d : Disk) : (v.on d).nesting = v.nesting := rfl

/-- The location that a written path leads to. -/
def locate (v : View) (follow : Bool) (path : String) : Except CallFault (List String) :=
  if path.toList.contains '\x00' then .error .nullByte
  else if path.isEmpty then .error (.failed .noEntry)
  else if Disk.maxPath < path.utf8ByteSize then .error (.failed .nameTooLong)
  else
    let start := if Path.anchorOf path != .here then [] else v.cwd
    (v.disk.walk v.user follow Disk.maxLinks start (Path.names path)).mapError .failed

/-- What stands where a written path leads to. -/
def node (v : View) (follow : Bool) (path : String) : Except CallFault (List String × Node) := do
  let loc ← v.locate follow path
  match v.disk.node? loc with
  | some n => pure (loc, n)
  | none => throw (.failed .noEntry)

/-- Whether a path, its last name included, is a link. -/
def isLink (v : View) (path : Path) : Bool :=
  match v.node false path.text with
  | .ok (_, .link _) => true
  | _ => false

end View
end SqlMargin
