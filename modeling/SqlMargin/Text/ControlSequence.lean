import SqlMargin.Text.Lines

/-! Control sequences, which move the cursor of a terminal or colour what follows. One is an escape
character and a bracket, then parameters, then intermediate characters, and one final character. No
other part of it is an escape character, so a text is cut at these to find them. -/
namespace SqlMargin.Text
namespace ControlSequence

/-- The character that starts a control sequence. -/
def escape : Char := '\x1b'

def isParameter (c : Char) : Bool := 0x30 ≤ c.toNat && c.toNat ≤ 0x3f

def isIntermediate (c : Char) : Bool := 0x20 ≤ c.toNat && c.toNat ≤ 0x2f

def isFinal (c : Char) : Bool := 0x40 ≤ c.toNat && c.toNat ≤ 0x7e

/-- What follows a control sequence, if the text after an escape character goes on with one. -/
def after? : List Char → Option (List Char)
  | '[' :: s =>
    match (s.dropWhile isParameter).dropWhile isIntermediate with
    | c :: rest => if isFinal c then some rest else none
    | [] => none
  | _ => none

/-- What stays of an escape character and the text up to the next one. -/
def kept (s : List Char) : List Char := (after? s).getD (escape :: s)

/-- A text without its control sequences. What they stood between is not looked at again. -/
def strip (s : List Char) : List Char :=
  match cut escape s with
  | [] => []
  | first :: pieces => first ++ pieces.flatMap kept

theorem strip_of_notMem (s : List Char) (h : escape ∉ s) : strip s = s := by
  simp [strip, cut_of_notMem escape s h]

end ControlSequence

/-- A text as it is written where no terminal shows it. -/
def plain (s : String) : String := String.ofList (ControlSequence.strip s.toList)

example : ControlSequence.strip "a\x1b[1;31mb\x1b[ mc".toList = "abc".toList := by decide +kernel

example : ControlSequence.strip "\x1b\x1b[m[m\x1b[1\nm".toList = "\x1b[m\x1b[1\nm".toList := by
  decide +kernel

end SqlMargin.Text
