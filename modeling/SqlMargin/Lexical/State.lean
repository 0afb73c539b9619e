/-! Where in SQL text a position lies: in code, in a quoted literal, or in a comment. -/
namespace SqlMargin.Lexical

/-- The four lexical contexts. -/
inductive Context where
  | code
  | string
  | lineComment
  | blockComment
  deriving DecidableEq, Repr

/-- The state before a character: its context, the quote that opened the literal, and how many
parentheses are open. Closing more than were opened takes the depth below zero. Scanning opens
literals with quotes of one character; a state given from outside may hold any text, and a literal
whose quote is longer or empty does not end. -/
structure State where
  context : Context := .code
  quote : Option (List Char) := none
  depth : Int := 0
  deriving DecidableEq, Repr

namespace State

/-- Whether the position lies in a literal or a comment. -/
def isLiteral (s : State) : Bool := s.context != .code

end State
end SqlMargin.Lexical
