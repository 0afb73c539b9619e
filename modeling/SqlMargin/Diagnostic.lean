/-! Messages about the work done. -/
namespace SqlMargin

/-- What was done, for someone who follows the work. -/
inductive Diagnostic where
  /-- A line, counted from one, was given its margin. -/
  | lineIndented (line : Nat) (delta previous new : Int)
  | modeEnabled
  | modeDisabled
  | verbose
  /-- A file was looked at as a whole. -/
  | fileDone (path : String) (changed : Bool)
  deriving DecidableEq, Repr

namespace Diagnostic

def message : Diagnostic → String
  | .lineIndented line delta previous new =>
    s!"line {line}: level delta {delta}, previous indent {previous}, new indent {new}"
  | .modeEnabled => "SQL indentation mode enabled"
  | .modeDisabled => "SQL indentation mode disabled"
  | .verbose => "Debug logging enabled."
  | .fileDone path changed => s!"{path}: " ++ if changed then "changed" else "unchanged"

/-- The message as a line of the log. -/
def render (m : Diagnostic) : String := "DEBUG: " ++ m.message

end Diagnostic
end SqlMargin
