import SqlMargin.Indent.Line

/-! Indenting a whole text in one pass from top to bottom. Each line is placed after the line above
it is final. -/
namespace SqlMargin

variable [Memory]

namespace Style

/-- The line above the next line, when line `i` has just been placed. -/
def passed (previous : Option (Previous Int)) (i indent : Nat) : Edit (Option (Previous Int)) := do
  if (← Edit.document).isBlank i then pure previous
  else return some ⟨← Edit.lineStart i, indent⟩

/-- Indents `n` lines from line `i` on; `previous` is the last line placed that is not blank. Blank
lines are emptied where the style says so, and never count as the line above. -/
def indentFrom (s : Style) (lexer : Lexer) :
    Nat → Nat → Option (Previous Int) → Edit (List Record)
  | 0, _, _ => pure []
  | n + 1, i, previous => do
    if (← Edit.document).isBlank i && !s.blankLines then
      Edit.setMargin i .empty
      s.indentFrom lexer n (i + 1) previous
    else
      let record ← s.indentLine (some lexer) previous i
      return record :: (← s.indentFrom lexer n (i + 1) (← passed previous i record.newIndent))

/-- Indents every line. -/
def indentBuffer (s : Style) (lexer : Option Lexer) : Edit (List Record) :=
  Lexer.during lexer s.escapes fun l => do
    s.indentFrom l (← Edit.document).lineCount 0 none

end Style

/-- Indents every line of a buffer and tells what was done to each. -/
def indentBuffer (s : Settings) (lexer : Option Lexer) : Edit (List Record) := do
  let style ← (s.style : Except Fault Style)
  style.indentBuffer lexer

/-- A text with every line indented. -/
def indentText (s : Settings) (text : List Char) : Except Fault (List Char) :=
  let (outcome, b) := Edit.perform (.ofText text 0) (indentBuffer s none)
  outcome.map fun _ => b.document.text

end SqlMargin
