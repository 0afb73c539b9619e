import SqlMargin.Document.Margin
import SqlMargin.Text.Blank
import SqlMargin.Text.Lines

/-! Documents: lines of text and a cursor, addressed by character offsets. A position before the
start or past the end stands for the start or the end. Offsets of line starts are worked out when
they are asked for and then kept; the table holds those of the first lines. -/
namespace SqlMargin

/-- A text as its lines, of which there is at least one, and a cursor. The number of characters is
kept beside the lines, and so are the offsets of the first line starts. -/
structure Document where
  lines : List (List Char)
  length : Nat
  starts : List Nat
  cursor : Nat
  lines_ne_nil : lines ≠ []
  newline_notMem : ∀ l ∈ lines, '\n' ∉ l
  length_succ : length + 1 = Text.extent lines
  starts_ne_nil : starts ≠ []
  starts_offsets : starts <+: Text.offsetsFrom 0 lines

namespace Document

/-- The whole text. -/
def text (d : Document) : List Char := Text.joinLines d.lines

def lineCount (d : Document) : Nat := d.lines.length

/-- The offset in the text that a position stands for. -/
def clamp (d : Document) (p : Int) : Nat := min p.toNat d.length

def moveCursor (d : Document) (p : Int) : Document := { d with cursor := d.clamp p }

def ofText (s : List Char) (cursor : Int) : Document :=
  moveCursor
    { lines := Text.splitLines s
      length := s.length
      starts := [0]
      cursor := 0
      lines_ne_nil := Text.splitLines_ne_nil s
      newline_notMem := Text.newline_notMem_splitLines s
      length_succ := (Text.extent_splitLines s).symm
      starts_ne_nil := by simp
      starts_offsets := by
        cases h : Text.splitLines s with
        | nil => exact absurd h (Text.splitLines_ne_nil s)
        | cons l ls => simp [Text.offsetsFrom] } cursor

/-- The text of line `i`, empty outside the document. -/
def line (d : Document) (i : Nat) : List Char := d.lines[i]?.getD []

/-- Notes where one more line starts: past the last line noted and its line feed. -/
def note (d : Document) (h : d.starts.length < d.lines.length) : Document :=
  { d with
    starts := d.starts ++
      [d.starts.getLast d.starts_ne_nil + (d.line (d.starts.length - 1)).length + 1]
    starts_ne_nil := by simp
    starts_offsets :=
      Text.concat_prefix_offsetsFrom 0 d.starts d.lines d.starts_ne_nil d.starts_offsets h }

/-- Notes at most `n` more line starts, for as long as those noted ask for more and lines are
left. -/
def noteWhile (more : List Nat → Bool) : Nat → Document → Document
  | 0, d => d
  | n + 1, d =>
    if h : d.starts.length < d.lines.length ∧ more d.starts = true then
      noteWhile more n (d.note h.1)
    else d

/-- Notes line starts up to that of line `i`. -/
def reach (d : Document) (i : Nat) : Document :=
  noteWhile (fun starts => decide (starts.length ≤ i)) (d.lines.length - d.starts.length) d

/-- Notes line starts until one lies past a position. -/
def reachPast (d : Document) (p : Int) : Document :=
  noteWhile (fun starts => decide (starts.getLast?.getD 0 ≤ d.clamp p))
    (d.lines.length - d.starts.length) d

/-- Offset of the first character of line `i`. -/
def lineStart (d : Document) (i : Nat) : Nat := (d.reach i).starts[i]?.getD 0

/-- Offset of the end of line `i`. -/
def lineEnd (d : Document) (i : Nat) : Nat := d.lineStart i + (d.line i).length

/-- The line in which a position lies: the last one that starts there or before. -/
def lineAt (d : Document) (p : Int) : Nat :=
  (d.reachPast p).starts.findIdx (fun start => decide (d.clamp p < start)) - 1

def cursorLine (d : Document) : Nat := d.lineAt d.cursor

def isBlank (d : Document) (i : Nat) : Bool := Text.allBlank (d.line i)

def margin (d : Document) (i : Nat) : List Char := marginOf (d.line i)

/-- Offset just past the margin of line `i`. -/
def marginEnd (d : Document) (i : Nat) : Nat := d.lineStart i + (d.margin i).length

/-- What is said of a line that is not there. -/
def outside (d : Document) (n : Int) : Fault :=
  if Text.canWrite n then .lineOutside n d.lineCount else .hugeLine

/-- A line number given from outside, if there is such a line. -/
def checkLine (d : Document) (n : Int) : Except Fault Nat :=
  if 0 ≤ n ∧ n < d.lineCount then .ok n.toNat else .error (d.outside n)

@[simp] theorem text_ofText (s : List Char) (c : Int) : (ofText s c).text = s :=
  Text.joinLines_splitLines s

theorem splitLines_text (d : Document) : Text.splitLines d.text = d.lines :=
  Text.cut_glue _ d.lines d.lines_ne_nil d.newline_notMem

theorem length_text (d : Document) : d.text.length = d.length := by
  have h := Text.length_joinLines d.lines d.lines_ne_nil
  have hs := d.length_succ
  unfold text
  omega

/-! Taking note of line starts changes the table only. -/

@[simp] theorem lines_noteWhile (more : List Nat → Bool) (n : Nat) (d : Document) :
    (noteWhile more n d).lines = d.lines := by
  induction n generalizing d with
  | zero => rfl
  | succ n ih =>
    rw [noteWhile]
    split
    · exact ih _
    · rfl

@[simp] theorem length_noteWhile (more : List Nat → Bool) (n : Nat) (d : Document) :
    (noteWhile more n d).length = d.length := by
  have h := (noteWhile more n d).length_succ
  have hd := d.length_succ
  rw [lines_noteWhile] at h
  omega

@[simp] theorem cursor_noteWhile (more : List Nat → Bool) (n : Nat) (d : Document) :
    (noteWhile more n d).cursor = d.cursor := by
  induction n generalizing d with
  | zero => rfl
  | succ n ih =>
    rw [noteWhile]
    split
    · exact ih _
    · rfl

/-- Unless the table is full, it is enough for those who asked. -/
theorem more_noteWhile (more : List Nat → Bool) (n : Nat) (d : Document)
    (hn : d.lines.length ≤ d.starts.length + n)
    (h : (noteWhile more n d).starts.length < d.lines.length) :
    more (noteWhile more n d).starts = false := by
  induction n generalizing d with
  | zero =>
    rw [noteWhile] at h
    omega
  | succ n ih =>
    rw [noteWhile] at h ⊢
    split at h
    · next hm =>
      rw [dif_pos hm]
      exact ih (d.note hm.1) (by simp [note]; omega) h
    · next hm =>
      rw [dif_neg hm]
      simpa [h] using hm

/-- What the table says is right. -/
theorem getElem?_starts (d : Document) (i : Nat) (h : i < d.starts.length) :
    d.starts[i]? = some (Text.extent (d.lines.take i)) := by
  have hl : i < d.lines.length := by
    have hp := d.starts_offsets.length_le
    rw [Text.length_offsetsFrom] at hp
    omega
  have he : d.starts[i]? = (Text.offsetsFrom 0 d.lines)[i]? := by
    rw [List.prefix_iff_eq_take.1 d.starts_offsets, List.getElem?_take, if_pos h]
  rw [he, Text.getElem?_offsetsFrom 0 i d.lines hl, Nat.zero_add]

/-- The start of a line is the number of characters of the lines before it. -/
theorem lineStart_eq (d : Document) (i : Nat) (h : i < d.lineCount) :
    d.lineStart i = Text.extent (d.lines.take i) := by
  have hi : i < (d.reach i).starts.length := by
    by_cases hf : (d.reach i).starts.length < d.lines.length
    · have hm := more_noteWhile _ _ d (by omega) hf
      exact Nat.lt_of_not_le (of_decide_eq_false hm)
    · unfold lineCount at h
      omega
  rw [lineStart, getElem?_starts _ i hi, Option.getD_some, reach, lines_noteWhile]

theorem length_starts_pos (d : Document) : 0 < d.starts.length :=
  List.length_pos_iff.2 d.starts_ne_nil

theorem length_starts_le (d : Document) : d.starts.length ≤ d.lines.length := by
  simpa using d.starts_offsets.length_le

theorem clamp_le_length (d : Document) (p : Int) : d.clamp p ≤ d.length := Nat.min_le_right ..

/-- What is noted on the way to a position: when all of it lies before, the table is full. -/
theorem length_starts_reachPast (d : Document) (p : Int)
    (h : ∀ j, j < (d.reachPast p).starts.length → Text.extent (d.lines.take j) ≤ d.clamp p) :
    (d.reachPast p).starts.length = d.lines.length := by
  have hlines : (d.reachPast p).lines = d.lines := lines_noteWhile ..
  have hpos := (d.reachPast p).length_starts_pos
  have hle := (d.reachPast p).length_starts_le
  rw [hlines] at hle
  by_cases hfull : (d.reachPast p).starts.length < d.lines.length
  · have hm : ¬ (d.reachPast p).starts.getLast?.getD 0 ≤ d.clamp p :=
      of_decide_eq_false (more_noteWhile _ _ d (by omega) hfull)
    rw [List.getLast?_eq_getElem?, getElem?_starts _ _ (by omega), hlines] at hm
    exact absurd (h _ (by omega)) hm
  · omega

/-- A position lies in the line that is found for it. -/
theorem lineAt_spec (d : Document) (p : Int) :
    d.lineAt p < d.lineCount ∧ Text.extent (d.lines.take (d.lineAt p)) ≤ d.clamp p ∧
      d.clamp p ≤ Text.extent (d.lines.take (d.lineAt p)) + (d.line (d.lineAt p)).length := by
  have hlines : (d.reachPast p).lines = d.lines := lines_noteWhile ..
  have hpos := (d.reachPast p).length_starts_pos
  have hle := (d.reachPast p).length_starts_le
  have hstart := (d.reachPast p).getElem?_starts
  have hfull := d.length_starts_reachPast p
  unfold lineAt lineCount
  generalize (d.reachPast p).starts = starts at *
  rw [hlines] at hle hstart
  have hget : ∀ j (hj : j < starts.length), starts[j] = Text.extent (d.lines.take j) := by
    intro j hj
    have he := hstart j hj
    rw [List.getElem?_eq_getElem hj] at he
    exact Option.some.inj he
  -- `f` is the place of the first start past the position, if one was noted.
  generalize hf : starts.findIdx (fun start => decide (d.clamp p < start)) = f
  have hfle : f ≤ starts.length := hf ▸ List.findIdx_le_length
  have hbelow : ∀ j, j < f → Text.extent (d.lines.take j) ≤ d.clamp p := by
    intro j hj
    have hn := List.not_of_lt_findIdx (hf ▸ hj)
    rw [hget j (by omega)] at hn
    exact Nat.le_of_not_lt (of_decide_eq_false hn)
  have habove : f < starts.length → d.clamp p < Text.extent (d.lines.take f) := by
    intro hlt
    have hw := List.findIdx_getElem (w := hf ▸ hlt)
    simp only [hf, hget f hlt] at hw
    exact of_decide_eq_true hw
  have hf0 : f ≠ 0 := by
    intro h
    subst h
    simpa [Text.extent] using habove hpos
  have hstep := Text.extent_take_succ d.lines (f - 1) (by omega)
  rw [Nat.sub_add_cancel (by omega)] at hstep
  refine ⟨by omega, hbelow _ (by omega), ?_⟩
  by_cases hlt : f < starts.length
  · have ha := habove hlt
    unfold line
    omega
  · have hall := hfull (fun j hj => hbelow j (by omega))
    have hlen := d.length_succ
    have hc := d.clamp_le_length p
    rw [List.take_of_length_le (by omega)] at hstep
    unfold line
    omega

theorem lineAt_lt (d : Document) (p : Int) : d.lineAt p < d.lineCount := (d.lineAt_spec p).1

/-- A position lies in no other line. -/
theorem lineAt_eq (d : Document) (p : Int) (i : Nat) (hi : i < d.lineCount)
    (hl : Text.extent (d.lines.take i) ≤ d.clamp p)
    (hr : d.clamp p ≤ Text.extent (d.lines.take i) + (d.line i).length) : d.lineAt p = i := by
  obtain ⟨hj, hjl, hjr⟩ := d.lineAt_spec p
  unfold line at hr hjr
  have hsi := Text.extent_take_succ d.lines i hi
  have hsj := Text.extent_take_succ d.lines _ hj
  rcases Nat.lt_trichotomy (d.lineAt p) i with h | h | h
  · have hm := Text.extent_take_mono d.lines (i := d.lineAt p + 1) (j := i) h
    omega
  · exact h
  · have hm := Text.extent_take_mono d.lines (i := i + 1) (j := d.lineAt p) h
    omega

/-- The place of the last line that is not blank among `n` lines, the first of which has place `i`;
`found` is one found before. -/
def lastCode (found : Option Nat) (i : Nat) : Nat → List (List Char) → Option Nat
  | 0, _ => found
  | _, [] => found
  | n + 1, l :: rest => lastCode (if Text.allBlank l then found else some i) (i + 1) n rest

/-- The nearest line above line `i` that is not blank. -/
def codeAbove? (d : Document) (i : Nat) : Option Nat := lastCode none 0 i d.lines

theorem lastCode_succ (found : Option Nat) (i n : Nat) (ls : List (List Char)) :
    lastCode found i (n + 1) ls =
      if Text.allBlank (ls[n]?.getD []) then lastCode found i n ls else some (i + n) := by
  induction ls generalizing found i n with
  | nil => cases n <;> simp [lastCode]
  | cons l ls ih =>
    cases n with
    | zero => simp [lastCode]
    | succ n =>
      rw [lastCode, ih]
      simp [lastCode, Nat.add_assoc, Nat.add_comm 1 n]

@[simp] theorem codeAbove?_zero (d : Document) : d.codeAbove? 0 = none := by
  simp [codeAbove?, lastCode]

/-- One line up at a time. -/
theorem codeAbove?_succ (d : Document) (i : Nat) :
    d.codeAbove? (i + 1) = if d.isBlank i then d.codeAbove? i else some i := by
  unfold codeAbove? isBlank line
  rw [lastCode_succ, Nat.zero_add]

end Document
end SqlMargin
