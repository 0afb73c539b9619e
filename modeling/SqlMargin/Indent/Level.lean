import SqlMargin.Indent.Keyword
import SqlMargin.Text.Alphanumeric

/-! Levels: how many levels deeper a line stands than the line above it that is not blank. -/
namespace SqlMargin

/-- The line above: where it starts and the columns of its margin. -/
structure Previous (α : Type) where
  start : Int
  indent : α
  deriving DecidableEq, Repr

/-- A change of level, and the margin it is counted from. -/
structure Level (α : Type) where
  delta : Int
  previousIndent : α
  deriving DecidableEq, Repr

/-- The line above a position that is not blank; without one, the start of the text. -/
def previousLine {α : Type} (r : Ruler α) (p : Int) : Edit (Previous α) := do
  let i ← Edit.lineAt p
  let d ← Edit.document
  match d.codeAbove? i with
  | none => pure ⟨0, r.start⟩
  | some j => return ⟨← Edit.lineStart j, ← (r.columnsOf (d.line j) : Except Fault α)⟩

/-- The line above that is given or, without one, the one found above a position. -/
def givenOrAbove {α : Type} (r : Ruler α) (given : Option (Previous α)) (p : Int) :
    Edit (Previous α) :=
  match given with
  | some above => pure above
  | none => previousLine r p

/-- The place of a word that ends a text, in any case, without being the tail of an identifier. -/
def trailingWord? (word s : List Char) : Option Nat :=
  if word.isSuffixOf (Text.lower s) then
    let start := s.length - word.length
    if start ≠ 0 && (s[start - 1]?).any Text.isWordChar then none else some start
  else none

/-- Where a text opens a continuation, if it ends as one: at its last character, an opening
parenthesis, or at its last word, THEN. -/
def continuation? (s : List Char) : Option Nat :=
  if s.getLast? = some '(' then some (s.length - 1) else trailingWord? ['t', 'h', 'e', 'n'] s

namespace Lexer

/-- Whether the code before line `n` ends with THEN or an opening parenthesis; whitespace at the end
and blank lines do not count. -/
def endsWithContinuation (l : Lexer) (n : Int) : Edit Bool := do
  let d ← Edit.document
  if n ≤ 0 then pure false
  else
    let last ← Edit.checkLine (n - 1)
    match d.codeAbove? (last + 1) with
    | none => pure false
    | some i =>
      let start ← Edit.lineStart i
      match continuation? (Text.trimRight (d.line i)) with
      | none => pure false
      | some k => return !(← l.isLiteral (start + k))

/-- After a continuation the level rises if it did not already. -/
def raised (l : Lexer) (i : Nat) (delta : Int) : Edit Int :=
  if delta < 1 then return if ← l.endsWithContinuation i then delta + 1 else delta else pure delta

/-- A closer lowers the level unless it already fell. -/
def lowered (l : Lexer) (start : Nat) (delta : Int) : Edit Int :=
  if 0 ≤ delta then return if ← l.startsWithCloser start then delta - 1 else delta else pure delta

/-- The change of level of line `i`, which starts at `start`, counted from a given line above: the
parentheses opened between them, one more after a line with a keyword, one less for a line with a
keyword; then continuations and closers. -/
def levelFrom {α : Type} (l : Lexer) (keyword : List Char → Except Fault Bool)
    (previous : Previous α) (i start : Nat) : Edit (Level α) := do
  let opened ← l.depthDelta previous.start start
  let after ← l.startsWithKeyword keyword previous.start
  let here ← l.startsWithKeyword keyword start
  let delta ← l.raised i (opened + (if after then 1 else 0) - (if here then 1 else 0))
  return ⟨← l.lowered start delta, previous.indent⟩

end Lexer

/-- The change of level of the line at a position. Nothing of the buffer is changed by it. -/
def levelAt {α : Type} (r : Reading α) (lexer : Option Lexer) (previous : Option (Previous α))
    (p : Int) : Edit (Level α) := do
  let i ← Edit.lineAt p
  let start ← Edit.lineStart i
  Lexer.during lexer r.escapes fun l => do
    l.levelFrom r.keyword (← givenOrAbove r.ruler previous start) i start

end SqlMargin
