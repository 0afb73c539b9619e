import SqlMargin.Value

/-! The settings of the indenter, by name and with values of any kind. They are checked before text
is indented. -/
namespace SqlMargin

/-- Words that start a statement or a clause. -/
def defaultKeywords : List String :=
  [")", "alter", "begin", "create", "delete", "delimiter", "drop", "else", "end", "from", "group",
    "having", "insert", "intersect", "into", "order", "select", "set", "source", "truncate",
    "union", "update", "use", "where"]

def defaultMaxFileSize : Nat := 10 * 1024 * 1024

structure Settings where
  indentOffset : Value := .int 4
  tabWidth : Value := .int 8
  indentWithTabs : Value := .bool false
  indentBlankLines : Value := .bool true
  recognizedKeywords : Value := .words defaultKeywords
  backslashEscapes : Value := .bool true
  debugLogging : Value := .bool false
  maxFileSize : Value := .int defaultMaxFileSize
  deriving Inhabited

namespace Settings

/-- The names of the settings. -/
inductive Field where
  | indentOffset
  | tabWidth
  | indentWithTabs
  | indentBlankLines
  | recognizedKeywords
  | backslashEscapes
  | debugLogging
  | maxFileSize
  deriving DecidableEq, Repr

namespace Field

def all : List Field :=
  [.indentOffset, .tabWidth, .indentWithTabs, .indentBlankLines, .recognizedKeywords,
    .backslashEscapes, .debugLogging, .maxFileSize]

def name : Field → String
  | .indentOffset => "indent_offset"
  | .tabWidth => "tab_width"
  | .indentWithTabs => "indent_with_tabs"
  | .indentBlankLines => "indent_blank_lines"
  | .recognizedKeywords => "recognized_keywords"
  | .backslashEscapes => "backslash_escapes"
  | .debugLogging => "debug_logging"
  | .maxFileSize => "max_file_size"

def ofName? (s : String) : Option Field := all.find? (·.name == s)

end Field

def get (s : Settings) : Field → Value
  | .indentOffset => s.indentOffset
  | .tabWidth => s.tabWidth
  | .indentWithTabs => s.indentWithTabs
  | .indentBlankLines => s.indentBlankLines
  | .recognizedKeywords => s.recognizedKeywords
  | .backslashEscapes => s.backslashEscapes
  | .debugLogging => s.debugLogging
  | .maxFileSize => s.maxFileSize

def set (s : Settings) (f : Field) (v : Value) : Settings :=
  match f with
  | .indentOffset => { s with indentOffset := v }
  | .tabWidth => { s with tabWidth := v }
  | .indentWithTabs => { s with indentWithTabs := v }
  | .indentBlankLines => { s with indentBlankLines := v }
  | .recognizedKeywords => { s with recognizedKeywords := v }
  | .backslashEscapes => { s with backslashEscapes := v }
  | .debugLogging => { s with debugLogging := v }
  | .maxFileSize => { s with maxFileSize := v }

@[simp] theorem get_set (s : Settings) (f g : Field) (v : Value) :
    (s.set f v).get g = if g = f then v else s.get g := by
  cases f <;> cases g <;> rfl

/-- A name under which a value cannot be given: no setting has it, or the named operation keeps it
for an argument of its own. -/
inductive NameFault where
  | unknown (name : String)
  | taken (operation name : String)
  deriving DecidableEq, Repr

def NameFault.message : NameFault → String
  | .unknown name => s!"IndentConfig.__init__() got an unexpected keyword argument '{name}'"
  | .taken operation name => s!"{operation}() got multiple values for argument '{name}'"

/-- Gives settings by name, in order; the first name that is not a setting's is refused. -/
def assign (s : Settings) : List (String × Value) → Except NameFault Settings
  | [] => .ok s
  | (name, v) :: rest =>
    if name = "self" then .error (.taken "IndentConfig.__init__" name)
    else match Field.ofName? name with
      | none => .error (.unknown name)
      | some f => (s.set f v).assign rest

/-- The settings with the given values in place of the defaults. -/
def ofEntries (entries : List (String × Value)) : Except NameFault Settings :=
  ({} : Settings).assign entries

example (s : Settings) (v : Value) : (s.assign [("tab_width", v)]).toOption =
    some { s with tabWidth := v } := by rfl

end Settings
end SqlMargin
