import SqlMargin.Buffer.Lexer
import SqlMargin.Indent.Reading

/-! Lines by what they start with: a keyword, or something that closes. -/
namespace SqlMargin

/-- Whether a text starts with a keyword, in any case, that whitespace or nothing follows. -/
def matchKeyword (keyword : List Char → Except Fault Bool) (s : List Char) : Except Fault Bool :=
  if Text.allBlank s || s.head?.any isIndent then .ok false
  else keyword (Text.lower (Text.firstWord s))

/-- Whether a text starts with a closing parenthesis or a line comment. -/
def startsCloser (s : List Char) : Bool :=
  s.head? == some ')' || s.head? == some '#' || ['-', '-'].isPrefixOf s

namespace Lexer

/-- What follows the margin of the line at a position, unless the line is blank or its first
character lies in a literal or a comment. -/
def codeText (l : Lexer) (p : Int) : Edit (Option (List Char)) := do
  let i ← Edit.lineAt p
  let content := contentOf ((← Edit.document).line i)
  if Text.allBlank content then pure none
  else if ← l.isLiteral (← Edit.marginEnd i) then pure none
  else pure (some content)

/-- Whether the line at a position starts with a keyword in code. -/
def startsWithKeyword (l : Lexer) (keyword : List Char → Except Fault Bool) (p : Int) :
    Edit Bool := do
  match ← l.codeText p with
  | none => pure false
  | some content => matchKeyword keyword content

/-- Whether the line at a position starts, in code, with what closes a level. -/
def startsWithCloser (l : Lexer) (p : Int) : Edit Bool := do
  return (← l.codeText p).any startsCloser

end Lexer
end SqlMargin
