import SqlMargin.Nesting
import SqlMargin.Text.Numeral

/-! Why a TOML document cannot be read. -/
namespace SqlMargin.Toml

inductive Fault where
  /-- The text is not a TOML document. -/
  | malformed
  /-- A whole number has more digits than are read. -/
  | tooLong (digits : Nat)
  /-- Values are nested more deeply than is read. -/
  | tooDeep
  deriving DecidableEq, Repr

def Fault.message : Fault → String
  | .malformed => "Invalid TOML document"
  | .tooLong digits =>
    s!"Exceeds the limit ({Text.maxDigits} digits) for integer string conversion: value has " ++
      s!"{digits} digits; use sys.set_int_max_str_digits() to increase the limit"
  | .tooDeep => Nesting.message

def malformed {α : Type} : Except Fault α := .error .malformed

def orMalformed {α : Type} : Option α → Except Fault α
  | some a => .ok a
  | none => malformed

/-- What follows a character, if the text starts with it. -/
def expect? (c : Char) : List Char → Option (List Char)
  | d :: rest => if c = d then some rest else none
  | [] => none

/-- Characters that stand in no comment and no string. -/
def isControl (c : Char) : Bool := (c.toNat < 32 && c != '\t') || c.toNat == 127

def isSpace (c : Char) : Bool := c == ' ' || c == '\t'

def skipSpaces (s : List Char) : List Char := s.dropWhile isSpace

/-- Reads something that stands on one line. `read` is given the rest of the line and tells what it
leaves of that. -/
def onLine {α : Type} (read : List Char → Except Fault (α × List Char)) (s : List Char) :
    Except Fault (α × List Char) :=
  let line := s.takeWhile (· != '\n')
  (read line).map fun (a, left) => (a, s.drop (line.length - left.length))

/-- What follows a comment, if the text starts with one. -/
def skipComment (s : List Char) : Except Fault (List Char) :=
  match expect? '#' s with
  | some rest =>
    if (rest.takeWhile (· != '\n')).any isControl then malformed
    else .ok (rest.dropWhile (· != '\n'))
  | none => .ok s

/-- What follows the spaces, line ends and comments between the items of an array. -/
def skipGaps (inComment : Bool) : List Char → Except Fault (List Char)
  | [] => .ok []
  | c :: rest =>
    if inComment then
      if c = '\n' then skipGaps false rest
      else if isControl c then malformed
      else skipGaps true rest
    else if isSpace c || c = '\n' then skipGaps false rest
    else if c = '#' then skipGaps true rest
    else .ok (c :: rest)

end SqlMargin.Toml
