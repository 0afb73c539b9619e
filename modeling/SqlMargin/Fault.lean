import SqlMargin.Settings.Problem
import SqlMargin.Text.Numeral
import SqlMargin.Text.Quoted

/-! Why an editing or indenting operation fails. -/
namespace SqlMargin

inductive Fault where
  /-- The settings are not usable. -/
  | settings (p : Settings.Problem)
  | lineOutside (line : Int) (count : Nat)
  /-- A line is not there whose number cannot even be written. -/
  | hugeLine
  /-- A margin was to be written that has other characters than spaces and tabs. -/
  | notMargin (text : List Char)
  /-- A listener was to be removed that is not registered. -/
  | notListening
  /-- A classifier was asked that the buffer does not have. -/
  | noClassifier (index : Nat)
  /-- Tab stops of width zero. -/
  | moduloByZero
  | divisionByZero
  /-- Keywords of a kind in which no word can be looked up. -/
  | notCollection (kind : String)
  /-- Columns and a tab width of kinds that cannot be divided. -/
  | unsupported (operator columns width : String)
  /-- A number of characters to write that is of a kind without whole numbers. -/
  | notCount (kind : String)
  | fractionalZero (operator : String)
  /-- A number of characters to write that does not fit a signed word of 64 bits. -/
  | countTooLarge
  /-- There is no room left for what was to be written. -/
  | noMemory
  /-- Columns or a tab width beyond the largest double, to be divided with a fraction. -/
  | wholeTooLarge
  deriving DecidableEq, Repr

namespace Fault

def message : Fault → String
  | .settings p => p.message
  | .lineOutside line count => s!"Line {line} is outside the document ({count} lines)"
  | .hugeLine => Text.hugeNumber
  | .notMargin text =>
    s!"Indentation must only contain spaces and tabs: {String.ofList (Text.quoted text)}"
  | .notListening => "list.remove(x): x not in list"
  | .noClassifier index => s!"There is no classifier {index}"
  | .moduloByZero => "integer modulo by zero"
  | .divisionByZero => "integer division or modulo by zero"
  | .notCollection kind => s!"argument of type '{kind}' is not iterable"
  | .unsupported operator columns width =>
    s!"unsupported operand type(s) for {operator}: '{columns}' and '{width}'"
  | .notCount kind => s!"can't multiply sequence by non-int of type '{kind}'"
  | .fractionalZero operator => "float " ++ operator
  | .countTooLarge => "cannot fit 'int' into an index-sized integer"
  | .noMemory => ""
  | .wholeTooLarge => "int too large to convert to float"

/-- More was to be written than a text can hold. -/
def TooLarge (f : Fault) : Prop := f = .countTooLarge ∨ f = .noMemory

end Fault
end SqlMargin
