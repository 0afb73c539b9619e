import SqlMargin.Lexical.State

/-! Scanning: how a lexical state moves over text. One character decides with a look at the next
one; some pairs of characters are taken together. -/
namespace SqlMargin.Lexical

/-- Characters that open a literal. -/
def isQuote (c : Char) : Bool := c == '\x27' || c == '"' || c == '\x60'

namespace State

/-- The state after `c`, and whether the character after it, which is `next`, goes with it. -/
def advance (escapes : Bool) (s : State) (c : Char) (next : Option Char) : State × Bool :=
  match s.context with
  | .code =>
    if isQuote c then ({ s with context := .string, quote := some [c] }, false)
    else if c = '/' && next = some '*' then ({ s with context := .blockComment }, true)
    else if c = '#' || c = '-' && next = some '-' then ({ s with context := .lineComment }, false)
    else if c = '(' then ({ s with depth := s.depth + 1 }, false)
    else if c = ')' then ({ s with depth := s.depth - 1 }, false)
    else (s, false)
  | .string =>
    if c = '\\' && escapes && s.quote != some ['\x60'] then (s, true)
    else if s.quote = some [c] then ({ s with context := .code, quote := none }, false)
    else (s, false)
  | .lineComment => if c = '\n' then ({ s with context := .code }, false) else (s, false)
  | .blockComment =>
    if c = '*' && next = some '/' then ({ s with context := .code }, true) else (s, false)

end State

/-- Scans text whose first character may already be taken. -/
def scanFrom (escapes : Bool) : Bool → State → List Char → State
  | _, s, [] => s
  | true, s, _ :: rest => scanFrom escapes false s rest
  | false, s, c :: rest =>
    let (t, taken) := s.advance escapes c rest.head?
    scanFrom escapes taken t rest

/-- The state after a text. It is defined for every text: a literal that does not end leaves the
state inside it. -/
def scan (escapes : Bool) (s : State) (text : List Char) : State := scanFrom escapes false s text

@[simp] theorem scan_nil (e : Bool) (s : State) : scan e s [] = s := by simp [scan, scanFrom]

example : scan true {} "select ('a)'".toList = { depth := 1 } := by decide

example : (scan true {} "where x = 'it''s".toList).isLiteral := by decide

end SqlMargin.Lexical
