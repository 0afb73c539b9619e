/-! Who may use files and directories. Each belongs to a user and to a group, and has bits that say
what its owner, the members of its group, and everybody else may do with it. -/
namespace SqlMargin

/-- Who works with a disk. Numbers below 1000 are those of the system's own users and groups. -/
structure User where
  id : Nat := 1000
  group : Nat := 1000
  otherGroups : List Nat := []
  /-- A privileged user may use everything. -/
  isPrivileged : Bool := false
  deriving DecidableEq, Repr

def User.isIn (u : User) (group : Nat) : Bool := u.group == group || u.otherGroups.contains group

structure Mode where
  bits : Nat
  owner : Nat := 1000
  group : Nat := 1000
  deriving DecidableEq, Repr

namespace Mode

/-- A file that its owner may change and everybody may read. -/
def plainFile : Mode := { bits := 0o644 }

/-- A directory that its owner may change and everybody may enter. -/
def plainDirectory : Mode := { bits := 0o755 }

/-- Whether one of three bits is set for a user. The owner's bits decide for the owner, those of the
group for its other members, and the last ones for everybody else. -/
def allows (m : Mode) (u : User) (bit : Nat) : Bool :=
  let shift := if u.id = m.owner then 6 else if u.isIn m.group then 3 else 0
  u.isPrivileged || m.bits.testBit (shift + bit)

/-- May the file be read, or the directory be listed? -/
def mayRead (m : Mode) (u : User) : Bool := m.allows u 2

/-- May the file be written, or nodes be made in the directory? -/
def mayWrite (m : Mode) (u : User) : Bool := m.allows u 1

/-- May names be looked up in the directory? -/
def mayEnter (m : Mode) (u : User) : Bool := m.allows u 0

/-- Everybody may enter a plain directory. -/
theorem mayEnter_plainDirectory (u : User) : plainDirectory.mayEnter u = true := by
  unfold mayEnter allows plainDirectory
  dsimp only
  split
  · simp [Nat.testBit]
  · split <;> simp [Nat.testBit]

/-- May the group run the file? -/
def groupRuns (m : Mode) : Bool := m.bits.testBit 3

/-- Does what is made in the directory belong to its group? -/
def handsOnGroup (m : Mode) : Bool := m.bits.testBit 10

/-- The mode without one of its bits. -/
def without (m : Mode) (bit : Nat) : Mode :=
  if m.bits.testBit bit then { m with bits := m.bits - Nat.pow 2 bit } else m

/-- What is left of a file's mode when its owner or its content is changed: it no longer runs with
its owner's rights, nor with its group's. For a file that the group may not run the second bit means
something else, and stays. -/
def withoutRights (m : Mode) : Mode :=
  if m.groupRuns then (m.without 11).without 10 else m.without 11

/-- The mode with other bits. Only members of a group let a file run with the group's rights. -/
def withBits (m : Mode) (u : User) (bits : Nat) : Mode :=
  if u.isPrivileged || u.isIn m.group then { m with bits } else ({ m with bits } : Mode).without 10

/-- The mode of a file that a user makes in a directory, for the user alone. -/
def ofNew (u : User) (directory : Mode) : Mode :=
  { bits := 0o600
    owner := u.id
    group := if directory.handsOnGroup then directory.group else u.group }

example : withoutRights { bits := 0o4755 } = { bits := 0o755 } ∧
    withoutRights { bits := 0o2755 } = { bits := 0o755 } := by decide

example : withoutRights { bits := 0o2644 } = { bits := 0o2644 } ∧
    withoutRights { bits := 0o1755 } = { bits := 0o1755 } := by decide

example : mayRead { bits := 0o044 } { id := 1 } = true ∧ mayRead { bits := 0o044 } {} = false := by
  decide

end Mode
end SqlMargin
