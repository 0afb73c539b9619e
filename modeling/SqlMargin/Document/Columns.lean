import SqlMargin.Decimal.Arithmetic
import SqlMargin.Document.Margin

/-! Columns that may have a fraction. They are whole until a tab is passed whose width is not. -/
namespace SqlMargin
open Decimal (Binary64)

/-- A number of columns. -/
inductive Columns where
  | whole (n : Int)
  | real (x : Binary64)
  deriving DecidableEq, Repr

namespace Columns

/-- The nearest double. -/
def toReal : Columns → Binary64
  | .whole n => .ofInt n
  | .real x => x

/-- Is there a finite double nearest to a whole number? -/
def hasReal : Columns → Bool
  | .whole n => !(Binary64.ofInt n).isInfinite
  | .real _ => true

def space : Columns → Columns
  | .whole n => .whole (n + 1)
  | .real x => .real (x.add (.ofInt 1))

/-- Where a tab leads with stops every `width` columns. -/
def nextStop (width n : Columns) : Except Fault Columns :=
  match width, n with
  | .whole w, .whole n => .whole <$> SqlMargin.nextStop w n
  | w, n =>
    if !(w.hasReal && n.hasReal) then .error .wholeTooLarge
    else if w.toReal.isZero then .error (.fractionalZero "modulo")
    else .ok (.real (n.toReal.add (w.toReal.sub (n.toReal.mod w.toReal))))

/-- Tab stops every `width` columns. -/
def ruler (width : Columns) : Ruler Columns := ⟨.whole 0, space, nextStop width⟩

end Columns
end SqlMargin
