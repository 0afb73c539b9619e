import SqlMargin.Indent.Level

/-! Indenting one line: its margin follows from the line above, and the cursor stays on its text. -/
namespace SqlMargin

/-- What was done to a line. -/
structure Record where
  line : Nat
  delta : Int
  previousIndent : Int
  newIndent : Nat
  deriving DecidableEq, Repr

/-- The margin that takes `n` columns: spaces, or tabs as far as whole tab stops go. -/
def Style.margin [Memory] (s : Style) (n : Nat) : Except Fault Margin :=
  if s.withTabs then do
    return .ofCounts (← Margin.count (n / s.tabWidth : Nat)) (← Margin.count (n % s.tabWidth : Nat))
  else .ofCounts 0 <$> Margin.count n

/-- The margin of `n` columns with unchecked settings and columns. -/
def Settings.margin [Memory] (s : Settings) (n : Value) : Except Fault Margin :=
  if s.indentWithTabs.isOn then
    match n.columns?, s.tabWidth.columns? with
    | some (.whole n), some (.whole width) =>
      if width = 0 then .error .divisionByZero
      else do return .ofCounts (← Margin.count (n.fdiv width)) (← Margin.count (n.fmod width))
    | some n, some width =>
      if !(n.hasReal && width.hasReal) then .error .wholeTooLarge
      else if width.toReal.isZero then .error (.fractionalZero "divmod()")
      else .error (.notCount "float")
    | _, _ => .error (.unsupported "divmod()" n.kind s.tabWidth.kind)
  else
    match n.whole? with
    | some n => .ofCounts 0 <$> Margin.count n
    | none => .error (.notCount n.kind)

namespace Edit

/-- Gives line `i` a margin, if there is room for the text down to its end. A cursor in the old
margin goes to the end of the new one, a cursor further on keeps its distance from the end of the
text, and one on an earlier line stays. -/
def setMargin [Memory] (i : Nat) (m : Margin) : Edit Unit := do
  let d ← document
  let start ← lineStart i
  let stop ← marginEnd i
  Memory.check (start + m.chars.length + (contentOf (d.line i)).length)
  modify fun b => if b.document.margin i ≠ m.chars then b.replaceMargin i m else b
  if d.cursor < start then pure ()
  else if d.cursor < stop then moveCursor (← marginEnd i)
  else moveCursor ((← document).length - (d.length - d.cursor : Int))

/-- The line given or, without one, the line of the cursor. -/
def lineOrCursor : Option Int → Edit Nat
  | some n => checkLine n
  | none => cursorLine

end Edit

namespace Style

/-- Columns of a line that stands at a level; never fewer than none. -/
def newIndent (s : Style) (level : Level Int) : Nat :=
  (level.previousIndent + s.offset * level.delta).toNat

/-- Says something to whoever follows the work, where the style asks for it. -/
def report (s : Style) (m : Diagnostic) : Edit Unit := if s.debug then Edit.log m else pure ()

/-- Indents line `i`. -/
def indentLine [Memory] (s : Style) (lexer : Option Lexer) (previous : Option (Previous Int))
    (i : Nat) :
    Edit Record := do
  let start ← Edit.lineStart i
  let level ← levelAt s.reading lexer previous start
  let indent := s.newIndent level
  let margin ← (s.margin indent : Except Fault Margin)
  Edit.setMargin i margin
  s.report (.lineIndented (i + 1) level.delta level.previousIndent indent)
  pure ⟨i, level.delta, level.previousIndent, indent⟩

end Style

/-- The style of settings, or a fault that tells what is wrong with them. -/
def Settings.style (s : Settings) : Except Fault Style := s.check.mapError .settings

/-- Indents one line: the given one, or the line of the cursor. -/
def indentLine [Memory] (s : Settings) (lexer : Option Lexer) (previous : Option (Previous Int))
    (line : Option Int) : Edit Record := do
  let style ← (s.style : Except Fault Style)
  style.indentLine lexer previous (← Edit.lineOrCursor line)

end SqlMargin
