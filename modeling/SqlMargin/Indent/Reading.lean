import SqlMargin.Document.Columns
import SqlMargin.Settings.Style

/-! What levels are worked out from: which words are keywords, where tabs lead, and whether
backslashes escape. Unchecked settings may fail to say, a style never does. -/
namespace SqlMargin

/-- How lines are read. -/
structure Reading (α : Type) where
  keyword : List Char → Except Fault Bool
  ruler : Ruler α
  escapes : Bool

/-- Whether a text holds another one. -/
def occursIn (part : List Char) : List Char → Bool
  | [] => part.isEmpty
  | c :: rest => part.isPrefixOf (c :: rest) || occursIn part rest

namespace Value

/-- Whether a word is among a value's members: the entries of a list or set, the keys of a table,
or the parts of a text. -/
def holds (v : Value) (word : List Char) : Except Fault Bool :=
  let w := String.ofList word
  match v with
  | .words ws => .ok (ws.contains w)
  | .list items => .ok (items.any fun i => i.text? == some w)
  | .table entries => .ok (entries.any (·.1 == w))
  | .text s => .ok (occursIn word s.toList)
  | other => .error (.notCollection other.kind)

/-- A number of columns; truth values count as zero and one. -/
def columns? : Value → Option Columns
  | .float x => some (.real x)
  | other => other.whole?.map .whole

/-- Tab stops as far apart as a value says. A value that is no number fails at the first tab. -/
def ruler (width : Value) : Ruler Columns :=
  match width.columns? with
  | some w => w.ruler
  | none => ⟨.whole 0, Columns.space, fun _ => .error (.unsupported "%" "int" width.kind)⟩

end Value

def Settings.reading (s : Settings) : Reading Columns where
  keyword := s.recognizedKeywords.holds
  ruler := s.tabWidth.ruler
  escapes := s.backslashEscapes.isOn

def Style.reading (s : Style) : Reading Int where
  keyword word := .ok (s.keywords.contains (String.ofList word))
  ruler := .ofWidth s.tabWidth
  escapes := s.escapes

end SqlMargin
