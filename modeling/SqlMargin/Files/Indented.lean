import SqlMargin.Files.Guard
import SqlMargin.Indent.Pass

/-! The content of a file as it is and as it would be indented. -/
namespace SqlMargin

/-- Why a file's content cannot be indented. -/
inductive IndentedFault where
  | settings (p : Settings.Problem)
  | unreadable (fault : FileFault)
  | undecodable (path : String) (fault : Text.Utf8.Fault)
  | noLine (path : String) (line : Int) (count : Nat)
  /-- A line is not there whose number cannot even be written. -/
  | hugeLine
  /-- A line could not be given its margin; `log` is what was said about the lines before. -/
  | failed (fault : Fault) (log : List Diagnostic)
  deriving DecidableEq, Repr

def IndentedFault.message : IndentedFault → String
  | .settings p => p.message
  | .unreadable fault => fault.message
  | .undecodable path fault => s!"Invalid UTF-8 sequence in {path}: {fault.message}"
  | .noLine path line count => s!"{path} has no line {line + 1} ({count} lines)."
  | .hugeLine => Text.hugeNumber
  | .failed fault _ => fault.message

/-- Content before and after indenting, and what was said about it. -/
structure Indented where
  before : List Char
  after : List Char
  log : List Diagnostic

namespace Style

/-- Indents a text, or one line of it, which must be there. -/
def indentedText [Memory] (s : Style) (p : Path) (text : List Char) (line : Option Int) :
    Except IndentedFault Indented :=
  let b := Buffer.ofText text 0
  let finish {α : Type} : Except Fault α × Buffer → Except IndentedFault Indented
    | (.ok _, b) => .ok ⟨text, b.document.text, b.log⟩
    | (.error f, b) => .error (.failed f b.log)
  match line with
  | none => finish (Edit.perform b (s.indentBuffer none))
  | some n =>
    match b.document.checkLine n with
    | .error _ =>
      .error (if Text.canWrite (n + 1) then .noLine p.text n b.document.lineCount else .hugeLine)
    | .ok i => finish (Edit.perform b (s.indentLine none none i))

/-- Indents what the bytes of a file hold. -/
def indented [Memory] (s : Style) (p : Path) (bytes : List UInt8) (line : Option Int) :
    Except IndentedFault Indented := do
  let text ← (Text.Utf8.decode bytes).mapError (.undecodable p.text)
  s.indentedText p text line

end Style

/-- Reads a file and indents its content, or one line of it. -/
def View.indented [Memory] (v : View) (p : Path) (s : Settings) (line : Option Int) :
    Except IndentedFault Indented := do
  let style ← s.check.mapError .settings
  let bytes ← (v.readBytes p).mapError .unreadable
  style.indented p bytes line

end SqlMargin
