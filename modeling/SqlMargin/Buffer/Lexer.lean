import SqlMargin.Buffer.Basic

/-! Lexers: who says what lies in literals and how deeply parentheses nest. That is a classifier of
the buffer, or an oracle with answers of its own. -/
namespace SqlMargin

/-- Answers given from outside. They may depend on the number of questions put before, so the same
question need not have the same answer twice. -/
structure Oracle where
  literal : Nat → Document → Int → Bool
  depthDelta : Nat → Document → Int → Int → Int

inductive Lexer where
  | classifier (index : Nat)
  | oracle (o : Oracle)

namespace Lexer

/-- Puts a question to an oracle. -/
def ask {α : Type} (question : Nat → Document → α) : Edit α := do
  let b ← get
  set { b with asked := b.asked + 1 }
  pure (question b.asked b.document)

/-- Whether a position lies in a literal or a comment. -/
def isLiteral (l : Lexer) (p : Int) : Edit Bool :=
  match l with
  | .classifier k => return (← Edit.stateAt k p).isLiteral
  | .oracle o => ask fun n d => o.literal n d p

/-- How many more parentheses are open at `stop` than at `start`. -/
def depthDelta (l : Lexer) (start stop : Int) : Edit Int :=
  match l with
  | .classifier k => do
    let after ← Edit.stateAt k stop
    let before ← Edit.stateAt k start
    pure (after.depth - before.depth)
  | .oracle o => ask fun n d => o.depthDelta n d start stop

/-- Works with the lexer given or, without one, with a new classifier that is taken away
afterwards, whether the work succeeds or fails. -/
def during {α : Type} (given : Option Lexer) (escapes : Bool) (work : Lexer → Edit α) : Edit α :=
  match given with
  | some l => work l
  | none => ExceptT.mk fun b =>
    let k := b.classifiers.length
    let (outcome, after) := Edit.perform (b.openClassifier escapes) (work (.classifier k))
    (outcome, after.dropClassifier k)

end Lexer
end SqlMargin
