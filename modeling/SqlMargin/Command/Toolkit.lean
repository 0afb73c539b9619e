import SqlMargin.Fault
import SqlMargin.Files.Fault
import SqlMargin.Settings.Discovery

/-! What the command takes from a library for command lines: that reads the words, finds the options
and the file named among them, words the messages, and writes to the terminal. Nothing else is known
of it. -/
namespace SqlMargin

/-- What the system tells of a path at which a file should be. -/
inductive Probe where
  /-- The path cannot be given to the system. -/
  | invalid
  | absent
  | directory
  | file (readable : Bool)
  deriving DecidableEq, Repr

def View.probe (v : View) (path : String) : Probe :=
  match v.node true path with
  | .error .nullByte => .invalid
  | .error (.failed _) => .absent
  | .ok (_, .directory _) => .directory
  | .ok (_, .file f) => .file (f.mode.mayRead v.user)
  | .ok (_, .link _) => .absent

namespace Command

/-- What the command is asked to do: the file named, and the options. -/
structure Arguments where
  file : String
  indentOffset : Option Int := none
  tabWidth : Option Int := none
  useTabs : Option Bool := none
  debug : Option Bool := none
  line : Option Int := none
  inPlace : Bool := false
  check : Bool := false
  deriving DecidableEq, Repr

/-- The settings that the options take precedence with. -/
def Arguments.overrides (a : Arguments) : List (String × Value) :=
  let number (n : Option Int) : Value := n.elim .null .int
  let switch (b : Option Bool) : Value := b.elim .null .bool
  [("indent_offset", number a.indentOffset), ("tab_width", number a.tabWidth),
   ("indent_with_tabs", switch a.useTabs), ("debug_logging", switch a.debug)]

/-- How a failure is reported: by its exit code, and a text on the error stream. -/
structure Notice where
  exitCode : Nat
  text : String
  exitCode_ne_zero : exitCode ≠ 0 := by decide
  deriving DecidableEq, Repr

/-- An error that the command does not turn into a message of its own. -/
inductive Crash where
  | nullByte
  | path (fault : PathFault)
  | search (fault : Settings.SearchFault)
  | indent (fault : Fault)
  deriving DecidableEq, Repr

def Crash.message : Crash → String
  | .nullByte => FileFault.nullByte.message
  | .path fault => fault.message
  | .search fault => fault.message
  | .indent fault => fault.message

/-- How a run ends early. -/
inductive Ending where
  /-- Text was asked for that has nothing to do with a file. -/
  | told (text : String)
  | refused (notice : Notice)
  | crashed (crash : Crash)
  deriving DecidableEq, Repr

/-- A library for command lines. -/
structure Toolkit where
  /-- What words ask for, given what the system tells of paths. -/
  arguments : (String → Probe) → List String → Except Ending Arguments
  /-- How it is reported that the file named cannot be used. -/
  wrongFile : String → Notice
  /-- How any other failure is reported. -/
  failure : String → Notice
  /-- What is written of a text to a stream that a terminal shows or not. -/
  shown : Bool → String → String

end Command
end SqlMargin
