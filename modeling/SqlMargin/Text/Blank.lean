import SqlMargin.Text.Ranges

/-! Whitespace: the characters trimmed from words and lines, and what a blank line holds. -/
namespace SqlMargin.Text

/-- Code points of the characters that count as whitespace. -/
def blankRanges : List (Nat × Nat) := [
    (0x9,0xD), (0x1C,0x20), (0x85,0x85), (0xA0,0xA0), (0x1680,0x1680), (0x2000,0x200A),
    (0x2028,0x2029), (0x202F,0x202F), (0x205F,0x205F), (0x3000,0x3000)]

/-- Whether a character is whitespace. -/
def isBlank (c : Char) : Bool := covers blankRanges c.toNat

/-- Whether a text holds nothing but whitespace. -/
def allBlank (s : List Char) : Bool := s.all isBlank

def trimLeft (s : List Char) : List Char := s.dropWhile isBlank

def trimRight (s : List Char) : List Char := (s.reverse.dropWhile isBlank).reverse

/-- A text without the whitespace around it. -/
def trim (s : List Char) : List Char := trimRight (trimLeft s)

/-- The first run of characters that are not whitespace; empty for a blank text. -/
def firstWord (s : List Char) : List Char := (trimLeft s).takeWhile (fun c => !isBlank c)

/-- A word is not empty and holds no whitespace. -/
def isWord (s : List Char) : Bool := !s.isEmpty && s.all (fun c => !isBlank c)

@[simp] theorem allBlank_nil : allBlank [] = true := rfl

@[simp] theorem allBlank_cons (c : Char) (s : List Char) :
    allBlank (c :: s) = (isBlank c && allBlank s) := rfl

theorem allBlank_append (s t : List Char) : allBlank (s ++ t) = (allBlank s && allBlank t) := by
  simp [allBlank]

example : isBlank ' ' ∧ isBlank '\t' ∧ isBlank '\u00a0' ∧ ¬ isBlank '\u200b' := by decide

example : trim "  a b\r\n".toList = "a b".toList := by decide

example : firstWord " from t".toList = "from".toList := by decide

end SqlMargin.Text
