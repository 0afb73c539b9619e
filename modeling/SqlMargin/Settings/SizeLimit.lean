import SqlMargin.Text.Numeral
import SqlMargin.Text.Quoted

/-! The largest file that is read, which the environment may set. -/
namespace SqlMargin

/-- The environment variable that sets the limit. -/
def sizeVariable : String := "SQL_INDENT_MAX_FILE_SIZE"

inductive SizeFault where
  | notInteger (raw : String)
  | notPositive (n : Int)
  deriving DecidableEq, Repr

def SizeFault.message : SizeFault → String
  | .notInteger raw => s!"{sizeVariable} must be a positive integer, got {Text.quote raw}."
  | .notPositive n => s!"{sizeVariable} must be a positive integer, got {n}."

/-- The limit in bytes: what the environment says, if it says anything. -/
def sizeLimit (raw : Option String) (default : Int) : Except SizeFault Int :=
  match raw with
  | none => .ok default
  | some s =>
    match Text.integer? s.toList with
    | none => .error (.notInteger s)
    | some n => if n < 1 then .error (.notPositive n) else .ok n

end SqlMargin
