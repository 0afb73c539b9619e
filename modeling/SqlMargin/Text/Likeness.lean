/-! How alike two texts are: the share of their characters that lie in blocks the texts have in
common. The longest block is taken first, then those on either side of it. -/
namespace SqlMargin.Text

/-- A block that two texts have in common: where it starts in each of them, and its length. -/
structure Block where
  left : Nat
  right : Nat
  size : Nat
  deriving DecidableEq, Repr

/-- The length of the longest beginning that two texts have in common. -/
def sharedStart : List Char → List Char → Nat
  | c :: s, d :: t => if c = d then sharedStart s t + 1 else 0
  | _, _ => 0

theorem sharedStart_le (s t : List Char) : sharedStart s t ≤ s.length := by
  induction s generalizing t with
  | nil => simp [sharedStart]
  | cons c s ih =>
    cases t with
    | nil => simp [sharedStart]
    | cons d t =>
      rw [sharedStart]
      split
      · simpa using ih t
      · exact Nat.zero_le _

/-- The longest block at the start of `s`, the first one in the other text. -/
def blockAtStart (s : List Char) : List Char → Block
  | [] => ⟨0, 0, 0⟩
  | d :: t =>
    let later := blockAtStart s t
    let size := sharedStart s (d :: t)
    if later.size ≤ size then ⟨0, 0, size⟩ else { later with right := later.right + 1 }

theorem blockAtStart_le (s t : List Char) :
    (blockAtStart s t).left + (blockAtStart s t).size ≤ s.length := by
  induction t with
  | nil => simp [blockAtStart]
  | cons d t ih =>
    simp only [blockAtStart]
    split
    · simpa using sharedStart_le s (d :: t)
    · exact ih

/-- The longest block of two texts; of several, the first one in `s`. -/
def longestBlock (s t : List Char) : Block :=
  match s with
  | [] => ⟨0, 0, 0⟩
  | c :: s =>
    let later := longestBlock s t
    let first := blockAtStart (c :: s) t
    if later.size ≤ first.size then first else { later with left := later.left + 1 }

/-- A block lies within the text. -/
theorem longestBlock_le (s t : List Char) :
    (longestBlock s t).left + (longestBlock s t).size ≤ s.length := by
  induction s with
  | nil => simp [longestBlock]
  | cons c s ih =>
    simp only [longestBlock]
    split
    · exact blockAtStart_le (c :: s) t
    · simp only [List.length_cons]
      omega

/-- How many characters of `s` lie in blocks in common with `t`. -/
def shared (s t : List Char) : Nat :=
  match h : longestBlock s t with
  | ⟨_, _, 0⟩ => 0
  | ⟨i, j, n + 1⟩ =>
    shared (s.take i) (t.take j) + (n + 1) + shared (s.drop (i + n + 1)) (t.drop (j + n + 1))
termination_by s.length
decreasing_by
  all_goals
    have fits : i + (n + 1) ≤ s.length := by simpa only [h] using longestBlock_le s t
    simp only [List.length_take, List.length_drop]
    omega

/-- A text with its likeness to another: the characters shared, and those of both together. -/
structure Likeness where
  name : String
  shared : Nat
  total : Nat
  deriving DecidableEq, Repr

namespace Likeness

def of (word name : String) : Likeness :=
  ⟨name, Text.shared name.toList word.toList, name.length + word.length⟩

/-- At least three characters in five are shared. -/
def isClose (l : Likeness) : Bool := 3 * l.total ≤ 10 * l.shared

/-- Whether the first text is the more alike, or as alike and later in the alphabet. -/
def precedes (l m : Likeness) : Bool :=
  m.shared * l.total < l.shared * m.total ||
    (l.shared * m.total == m.shared * l.total && m.name < l.name)

/-- Puts a text in its place among others, the most alike first. -/
def insert (l : Likeness) : List Likeness → List Likeness
  | [] => [l]
  | m :: ms => if l.precedes m then l :: m :: ms else m :: insert l ms

end Likeness

/-- The names close to a word, the closest first, at most `n` of them. -/
def closest (n : Nat) (word : String) (names : List String) : List String :=
  let close := (names.map (Likeness.of word)).filter Likeness.isClose
  ((close.foldr Likeness.insert []).take n).map (·.name)

example : closest 3 "appel" ["ape", "apple", "peach", "puppy"] = ["apple", "ape"] := by
  decide +kernel

end SqlMargin.Text
