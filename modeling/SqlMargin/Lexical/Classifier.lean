import SqlMargin.Document.Basic
import SqlMargin.Lexical.Scan

/-! Classifiers: lexical states of a document's positions, with the states at line starts kept from
one question to the next. The kept states are those of the first lines; an edit forgets the ones
after the line it touched. -/
namespace SqlMargin.Lexical

/-- The states kept, and whether backslashes escape in literals. -/
structure Classifier where
  escapes : Bool
  states : List State

namespace Classifier

/-- A new classifier knows the state at the start of the text. -/
def new (escapes : Bool) : Classifier := ⟨escapes, [{}]⟩

/-- The states at the ends of consecutive lines, the first of which starts in state `s`. -/
def endStates (escapes : Bool) : State → List (List Char) → List State
  | _, [] => []
  | s, l :: rest =>
    let t := scan escapes s (l ++ ['\n'])
    t :: endStates escapes t rest

/-- Keeps the states up to line `i`, working out those that are missing. Without any state there is
nothing to start from. -/
def fill (c : Classifier) (d : Document) (i : Nat) : Except Fault Classifier :=
  let n := c.states.length
  if i < n then .ok c
  else match c.states.getLast? with
    | none => .error (.lineOutside (-1) d.lineCount)
    | some s =>
      let missing := (d.lines.drop (n - 1)).take (i + 1 - n)
      .ok { c with states := c.states ++ endStates c.escapes s missing }

/-- The state before a column of line `i`, and the classifier that keeps what was worked out. -/
def stateIn (c : Classifier) (d : Document) (i column : Nat) :
    Except Fault (State × Classifier) := do
  let c ← c.fill d i
  pure (scan c.escapes (c.states[i]?.getD {}) ((d.line i).take column), c)

/-- Forgets the states after the first `n + 1` lines. A negative count leaves out that many from the
end. -/
def flush (c : Classifier) (n : Int) : Classifier :=
  let keep := if 0 ≤ n + 1 then (n + 1).toNat else (c.states.length + (n + 1)).toNat
  { c with states := c.states.take keep }

end Classifier
end SqlMargin.Lexical
