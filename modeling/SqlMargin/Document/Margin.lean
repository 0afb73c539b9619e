import SqlMargin.Fault

/-! Margins: the run of spaces and tabs that starts a line, and the columns it takes. How wide a
margin can be is left to the memory there is. -/
namespace SqlMargin

/-- The characters of a margin. -/
def isIndent (c : Char) : Bool := c == ' ' || c == '\t'

/-- A run of spaces and tabs. -/
structure Margin where
  chars : List Char
  all_isIndent : ∀ c ∈ chars, isIndent c = true

namespace Margin

def empty : Margin := ⟨[], by simp⟩

def ofText? (s : List Char) : Option Margin :=
  if h : s.all isIndent = true then some ⟨s, List.all_eq_true.1 h⟩ else none

/-- Tabs followed by spaces. -/
def ofCounts (tabs spaces : Nat) : Margin :=
  ⟨List.replicate tabs '\t' ++ List.replicate spaces ' ', by
    intro c hc
    rcases List.mem_append.1 hc with h | h <;> simp [List.eq_of_mem_replicate h, isIndent]⟩

/-- Counts of characters are below this. -/
def countBound : Nat := Nat.pow 2 63

theorem newline_notMem (m : Margin) : '\n' ∉ m.chars := fun h => by
  simpa [isIndent] using m.all_isIndent _ h

end Margin

/-- How many characters a text may have. What lies past the line that is being written does not
count, and texts that are handed in are taken to be there. -/
class Memory where
  room : Nat
  room_lt : room < Margin.countBound

namespace Memory

/-- More than any machine has. -/
@[reducible] def ample : Memory := ⟨Nat.pow 2 50, by decide⟩

variable [Memory]

/-- Is there room for a text of `n` characters? -/
def check (n : Nat) : Except Fault Unit := if n ≤ room then .ok () else .error .noMemory

theorem check_eq_ok_iff {n : Nat} : check n = .ok () ↔ n ≤ room := by
  unfold check
  split
  · next h => exact ⟨fun _ => h, fun _ => rfl⟩
  · next h => exact ⟨nofun, fun hn => absurd hn h⟩

end Memory

/-- As many characters as a number tells. Fewer than none are none. -/
def Margin.count [Memory] (n : Int) : Except Fault Nat :=
  if -countBound ≤ n ∧ n < countBound then do
    Memory.check n.toNat
    return n.toNat
  else .error .countTooLarge

theorem Margin.count_natCast [Memory] {n : Nat} (h : n ≤ Memory.room) : count n = .ok n := by
  have hroom := Memory.room_lt
  rw [count, if_pos (by omega), Int.toNat_natCast, Memory.check_eq_ok_iff.2 h]
  rfl

/-- The margin of a line. -/
def marginOf (line : List Char) : List Char := line.takeWhile isIndent

/-- What follows the margin of a line. -/
def contentOf (line : List Char) : List Char := line.dropWhile isIndent

@[simp] theorem marginOf_append_contentOf (line : List Char) :
    marginOf line ++ contentOf line = line := List.takeWhile_append_dropWhile

@[simp] theorem marginOf_contentOf (line : List Char) : marginOf (contentOf line) = [] := by
  induction line with
  | nil => rfl
  | cons c line ih =>
    by_cases h : isIndent c
    · simpa [contentOf, h] using ih
    · simp [marginOf, contentOf, h]

@[simp] theorem contentOf_contentOf (line : List Char) :
    contentOf (contentOf line) = contentOf line := by
  have h := marginOf_append_contentOf (contentOf line)
  rwa [marginOf_contentOf, List.nil_append] at h

theorem Margin.marginOf_append (m : Margin) (line : List Char) :
    marginOf (m.chars ++ line) = m.chars ++ marginOf line :=
  List.takeWhile_append_of_pos m.all_isIndent

theorem Margin.contentOf_append (m : Margin) (line : List Char) :
    contentOf (m.chars ++ line) = contentOf line :=
  List.dropWhile_append_of_pos m.all_isIndent

/-- What margins are measured with: the first column, and where a space and a tab lead. -/
structure Ruler (α : Type) where
  start : α
  space : α → α
  tab : α → Except Fault α

namespace Ruler

/-- The column reached after a margin that starts in column `n`. -/
def columnsFrom {α : Type} (r : Ruler α) : α → List Char → Except Fault α
  | n, [] => .ok n
  | n, c :: rest =>
    if c = ' ' then r.columnsFrom (r.space n) rest
    else if c = '\t' then r.tab n >>= fun m => r.columnsFrom m rest
    else .ok n

/-- The columns that a line's margin takes. -/
def columnsOf {α : Type} (r : Ruler α) (line : List Char) : Except Fault α :=
  r.columnsFrom r.start line

end Ruler

/-- Where a tab leads with stops every `width` columns. -/
def nextStop (width n : Int) : Except Fault Int :=
  if width = 0 then .error .moduloByZero else .ok (n + (width - n.fmod width))

/-- Tab stops every `width` columns. -/
def Ruler.ofWidth (width : Int) : Ruler Int := ⟨0, (· + 1), nextStop width⟩

example : (Ruler.ofWidth 8).columnsOf "\tfrom t".toList = .ok 8 := rfl

end SqlMargin
