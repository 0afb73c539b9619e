import SqlMargin.Files.Fault
import SqlMargin.Files.Resolve
import SqlMargin.Settings.Override
import SqlMargin.Settings.Style
import SqlMargin.Toml.Parser

/-! Settings from configuration files. Directories are searched from a given one upward, and the
first table of settings found decides. -/
namespace SqlMargin.Settings

/-- A configuration file, and the tables in it that may hold settings, in order. -/
structure Source where
  file : String
  tables : List (List String)

/-- The configuration files looked for in each directory, in order. -/
def sources : List Source :=
  [⟨"pyproject.toml", [["tool", "sql-indent"]]⟩,
   ⟨".sql-indent.toml", [["sql-indent"], ["tool", "sql-indent"]]⟩]

/-- Why a search for settings fails. -/
inductive SearchFault where
  | nullByte
  | tooDeep
  | loop (path : String)
  | system (fault : OsFault)
  | undecodable (fault : Text.Utf8.Fault)
  | unreadable (fault : Toml.Fault)
  | settings (p : Problem)
  | name (fault : NameFault)
  deriving DecidableEq, Repr

def SearchFault.message : SearchFault → String
  | .nullByte => "embedded null byte"
  | .tooDeep => Nesting.message
  | .loop path => "Symlink loop from " ++ Text.quote path
  | .system fault => fault.message
  | .undecodable fault => fault.message
  | .unreadable fault => fault.message
  | .settings p => p.message
  | .name fault => fault.message

/-- The entries of a configuration file, if it can be opened and is a document. -/
def document? (room : Nat) (bytes : List UInt8) : Except SearchFault (Option Toml.Entries) := do
  let text ← (Text.Utf8.decode bytes).mapError .undecodable
  match Toml.parse room text with
  | .ok entries => pure (some entries)
  | .error .malformed => pure none
  | .error fault => throw (.unreadable fault)

/-- Reads a configuration file. One that is missing, not regular, not readable or malformed does not
count. -/
def readSource (v : View) (readable : Bool) (path : Path) :
    Except SearchFault (Option Toml.Entries) :=
  match v.node true path.text with
  | .error .nullByte => .ok none
  | .error (.failed e) => if isAbsence e then .ok none else .error (.system ⟨e, some path.text⟩)
  | .ok (_, .file f) =>
    if readable && f.mode.mayRead v.user then document? v.nesting.values f.bytes else .ok none
  | .ok _ => .ok none

/-- The value at a path of keys. -/
def valueAt? : Value → List String → Option Value
  | v, [] => some v
  | v, k :: ks => (v.get? k).bind (valueAt? · ks)

/-- The settings that a table describes. -/
def ofTable (origin : String) : Value → Except Problem Settings
  | .table entries => (ofEntries entries).mapError (.badName origin)
  | _ => .error (.notTable origin)

/-- The settings in the first of some tables that a document has. -/
def inTables (doc : Toml.Entries) (path : Path) :
    List (List String) → Except SearchFault (Option Settings)
  | [] => .ok none
  | keys :: rest =>
    match valueAt? (.table doc) keys with
    | none => inTables doc path rest
    | some v =>
      let table := ".".intercalate keys
      ((ofTable s!"[{table}] in {path.text}" v).mapError .settings).map some

/-- The settings in the first of some files of a directory that has them. -/
def inSources (v : View) (readable : Bool) (directory : Path) :
    List Source → Except SearchFault (Option Settings)
  | [] => .ok none
  | source :: rest => do
    let path := directory.child source.file
    match ← readSource v readable path with
    | none => inSources v readable directory rest
    | some doc =>
      match ← inTables doc path source.tables with
      | none => inSources v readable directory rest
      | some s => pure (some s)

/-- The settings in the first of some directories that has them. -/
def inDirectories (v : View) (readable : Bool) : List Path → Except SearchFault (Option Settings)
  | [] => .ok none
  | directory :: rest => do
    match ← inSources v readable directory sources with
    | none => inDirectories v readable rest
    | some s => pure (some s)

/-- The settings for a directory: those found first on the way up, or the default ones. -/
def load (v : View) (readable : Bool) (p : Path) : Except SearchFault Settings := do
  let start ← match v.resolve false p with
    | .ok start => pure start
    | .error .nullByte => throw .nullByte
    | .error .tooDeep => throw .tooDeep
    | .error (.loop path) => throw (.loop path)
    | .error (.failed e path) => throw (.system ⟨e, some path⟩)
  match ← inDirectories v readable (start :: start.parents) with
  | none => pure {}
  | some s => s.normalize.mapError .settings

/-- The settings for a directory with overrides over them, checked and normalized. -/
def build (v : View) (readable : Bool) (p : Path) (overrides : List (String × Value)) :
    Except SearchFault Settings := do
  if overrides.any (·.1 == "search_path") then
    throw (.name (.taken "build_config" "search_path"))
  let found ← load v readable p
  let s ← (found.override overrides).mapError .name
  let s ← s.normalize.mapError .settings
  let _ ← s.check.mapError .settings
  pure s

end SqlMargin.Settings
