import SqlMargin.Settings.Basic
import SqlMargin.Text.Quoted

/-! What can be wrong with settings, and what is said of it. -/
namespace SqlMargin.Settings

/-- What makes settings unusable. -/
inductive Problem where
  | keywordsNotList
  | notInteger (f : Field)
  | notPositive (f : Field)
  | notBoolean (f : Field)
  | notWord (w : String)
  | notTable (origin : String)
  | badName (origin : String) (fault : NameFault)
  deriving DecidableEq, Repr

def Problem.message : Problem → String
  | .keywordsNotList => "`recognized_keywords` must be a list of strings"
  | .notInteger f => s!"`{f.name}` must be an integer"
  | .notPositive f => s!"`{f.name}` must be a positive integer"
  | .notBoolean f => s!"`{f.name}` must be a boolean"
  | .notWord w => s!"`recognized_keywords` entries must be single words, got {Text.quote w}"
  | .notTable origin => s!"Invalid `{origin}`: expected a table of settings"
  | .badName origin fault => s!"Invalid `{origin}`: {fault.message}"

end SqlMargin.Settings
