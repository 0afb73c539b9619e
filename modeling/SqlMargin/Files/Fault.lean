import SqlMargin.Files.Disk
import SqlMargin.Text.Utf8

/-! Why a file is refused, cannot be read, or is not written. -/
namespace SqlMargin

/-- A failed system call, and the path it was made with where that is told. -/
structure OsFault where
  errno : Errno
  path : Option String := none
  deriving DecidableEq, Repr

def OsFault.message (f : OsFault) : String :=
  s!"[Errno {f.errno.number}] {f.errno.text}" ++ match f.path with
    | none => ""
    | some p => ": " ++ Text.quote p

/-- The extensions of SQL files. -/
def sqlExtensions : List String :=
  [".sql", ".ddl", ".dml", ".mysql", ".pgsql", ".psql", ".plsql"]

/-- Why a path is not accepted as the path of a SQL file. -/
inductive PathFault where
  | noHome
  | nullByte
  | tooDeep
  | loop (path : String)
  | system (fault : OsFault)
  | throughLink (path : String)
  | missing (path : String)
  | unresolved (path : String) (fault : OsFault)
  | notRegular (path : String)
  | outside (path base : String)
  | notSql (path : String)
  deriving DecidableEq, Repr

def PathFault.message : PathFault → String
  | .noHome => "Could not determine home directory."
  | .nullByte => "embedded null byte"
  | .tooDeep => Nesting.message
  | .loop path => "Symlink loop from " ++ Text.quote path
  | .system fault => fault.message
  | .throughLink path => s!"Symlinks are not supported for security reasons: {path}"
  | .missing path => s!"{path} does not exist."
  | .unresolved path fault => s!"Cannot resolve {path}: {fault.message}"
  | .notRegular path => s!"{path} is not a regular file."
  | .outside path base => s!"{path} is outside of the working directory {base}."
  | .notSql path =>
    let known := ", ".intercalate sqlExtensions
    s!"{path} is not a SQL file (expected one of: {known})."

/-- Whether a path is refused for what it is. Otherwise it was not found out what it is. -/
def PathFault.isRefusal : PathFault → Bool
  | .noHome | .tooDeep | .loop _ | .system _ => false
  | _ => true

/-- Why a file cannot be looked at, read or written. -/
inductive FileFault where
  | nullByte
  | inaccessible (path : String) (fault : OsFault)
  | isLink (path : String)
  | notRegular (path : String)
  | oversize (path : String) (size : Nat) (limit : Int)
  | changed (path : String)
  | unopened (path : String) (fault : OsFault)
  | undecodable (fault : Text.Utf8.Fault)
  | unwritten (path : String) (fault : OsFault)
  deriving DecidableEq, Repr

def FileFault.message : FileFault → String
  | .nullByte => "embedded null byte"
  | .inaccessible path fault => s!"Cannot access {path}: {fault.message}"
  | .isLink path => s!"Symlinks are not supported: {path}."
  | .notRegular path => s!"{path} is not a regular file."
  | .oversize path size limit =>
    s!"{path} is {size} bytes, over the maximum allowed size of {limit} bytes."
  | .changed path => s!"{path} changed during processing; refusing to overwrite."
  | .unopened path fault => s!"Cannot open {path}: {fault.message}"
  | .undecodable fault => fault.message
  | .unwritten path fault => s!"Cannot rewrite {path}: {fault.message}"

end SqlMargin
