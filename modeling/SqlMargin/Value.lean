import SqlMargin.Decimal.Binary64
import SqlMargin.Moment

/-! Values that a setting may be given, whatever their kind. -/
namespace SqlMargin

/-- A value as it is read from a configuration file or handed over by a caller. A word set stands
in increasing order, without repetition. -/
inductive Value where
  | null
  | bool (b : Bool)
  | int (n : Int)
  | float (x : Decimal.Binary64)
  | text (s : String)
  | list (items : List Value)
  | table (entries : List (String × Value))
  | moment (m : Moment)
  | words (ws : List String)
  deriving Inhabited

namespace Value

/-- The name of a value's kind in messages. -/
def kind : Value → String
  | .null => "NoneType"
  | .bool _ => "bool"
  | .int _ => "int"
  | .float _ => "float"
  | .text _ => "str"
  | .list _ => "list"
  | .table _ => "dict"
  | .moment (.date _) => "datetime.date"
  | .moment (.time _) => "datetime.time"
  | .moment (.dateTime ..) => "datetime.datetime"
  | .words _ => "frozenset"

/-- Whether a value switches something on: nothing, zero and the empty values do not. -/
def isOn : Value → Bool
  | .null => false
  | .bool b => b
  | .int n => n != 0
  | .float x => !x.isZero
  | .text s => !s.isEmpty
  | .list items => !items.isEmpty
  | .table entries => !entries.isEmpty
  | .moment _ => true
  | .words ws => !ws.isEmpty

def isNull : Value → Bool
  | .null => true
  | _ => false

def text? : Value → Option String
  | .text s => some s
  | _ => none

/-- A whole number; truth values count as zero and one. -/
def whole? : Value → Option Int
  | .int n => some n
  | .bool b => some (if b then 1 else 0)
  | _ => none

/-- The value under a key of a table. -/
def get? : Value → String → Option Value
  | .table entries, key => entries.lookup key
  | _, _ => none

end Value
end SqlMargin
