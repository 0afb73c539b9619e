import SqlMargin.Settings.Keywords

/-! Checked settings. A style is what indenting works with; settings have one exactly when every
value is usable. -/
namespace SqlMargin

/-- Usable settings: widths and limits are positive, flags are truth values, keywords are words. -/
structure Style where
  offset : Nat
  tabWidth : Nat
  withTabs : Bool
  blankLines : Bool
  keywords : List String
  escapes : Bool
  debug : Bool
  maxSize : Nat
  offset_pos : 0 < offset
  tabWidth_pos : 0 < tabWidth

namespace Settings

/-- A positive whole number. -/
def positive (s : Settings) (f : Field) : Except Problem { n : Nat // 0 < n } :=
  match s.get f with
  | .int n => if h : 0 < n then .ok ⟨n.toNat, by omega⟩ else .error (.notPositive f)
  | _ => .error (.notInteger f)

def flag (s : Settings) (f : Field) : Except Problem Bool :=
  match s.get f with
  | .bool b => .ok b
  | _ => .error (.notBoolean f)

/-- Every keyword must be a word; the least one that is not is reported. -/
def checkWords : List String → Except Problem Unit
  | [] => .ok ()
  | w :: ws => if Text.isWord w.toList then checkWords ws else .error (.notWord w)

/-- The style that settings describe, or the first problem with them: numbers, then flags, then
keywords. -/
def check (s : Settings) : Except Problem Style := do
  let s ← s.normalize
  let offset ← s.positive .indentOffset
  let tabWidth ← s.positive .tabWidth
  let maxSize ← s.positive .maxFileSize
  let debug ← s.flag .debugLogging
  let withTabs ← s.flag .indentWithTabs
  let blankLines ← s.flag .indentBlankLines
  let escapes ← s.flag .backslashEscapes
  let keywords := (keywordEntries? s.recognizedKeywords).getD []
  checkWords keywords
  pure { offset := offset.1, tabWidth := tabWidth.1, withTabs, blankLines, keywords, escapes, debug,
         maxSize := maxSize.1, offset_pos := offset.2, tabWidth_pos := tabWidth.2 }

end Settings
end SqlMargin
