import SqlMargin.Text.Lines
import SqlMargin.Text.Lowercase

/-! Paths as they are written: where they start, and the names that lead on from there. Empty names
and single dots are left out, double dots are kept. -/
namespace SqlMargin

/-- What a path starts from. Two slashes at the start, and not more, are kept apart from one. -/
inductive Anchor where
  | here
  | root
  | doubleRoot
  deriving DecidableEq, Repr

structure Path where
  anchor : Anchor
  parts : List String
  deriving DecidableEq, Repr

namespace Path

/-- The names of a written path, one after the other; there is an empty one before a slash at the
start, after one at the end, and between two in a row. -/
def names (s : String) : List String := (Text.cut '/' s.toList).map String.ofList

/-- Whether a name stands for the directory reached so far. -/
def isIdle (name : String) : Bool := name == "" || name == "."

def anchorOf (s : String) : Anchor :=
  match (s.toList.takeWhile (· == '/')).length with
  | 0 => .here
  | 2 => .doubleRoot
  | _ => .root

def ofString (s : String) : Path := ⟨anchorOf s, (names s).filter (!isIdle ·)⟩

def anchorText : Anchor → String
  | .here => ""
  | .root => "/"
  | .doubleRoot => "//"

/-- The path as it is written in messages. -/
def text (p : Path) : String :=
  if p.anchor = .here && p.parts.isEmpty then "."
  else anchorText p.anchor ++ "/".intercalate p.parts

def isAbsolute (p : Path) : Bool := p.anchor != .here

def ofLocation (parts : List String) : Path := ⟨.root, parts⟩

def child (p : Path) (name : String) : Path := { p with parts := p.parts ++ [name] }

def parent (p : Path) : Path := { p with parts := p.parts.dropLast }

/-- The paths above a path as written, the nearest first. -/
def parents (p : Path) : List Path :=
  (List.range p.parts.length).reverse.map fun n => { p with parts := p.parts.take n }

/-- The last name, empty if there is none. -/
def name (p : Path) : String := p.parts.getLast?.getD ""

/-- The last name from its last dot on, unless that is its first or last character. -/
def suffix (p : Path) : List Char :=
  let reversed := p.name.toList.reverse
  let tail := (reversed.takeWhile (· != '.')).reverse
  let stem := reversed.drop (tail.length + 1)
  if tail.isEmpty || stem.isEmpty then [] else '.' :: tail

/-- Whether a path lies under another, name by name. -/
def isUnder (p base : Path) : Bool :=
  p.anchor == base.anchor && base.parts.isPrefixOf p.parts

example : (ofString "./a//b/.").text = "a/b" ∧ (ofString "").text = "." := by decide +kernel

example : (ofString "x/b.tar.SQL").suffix = ".SQL".toList ∧ (ofString ".sql").suffix = [] := by
  decide +kernel

end Path
end SqlMargin
