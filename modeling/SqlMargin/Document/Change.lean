import SqlMargin.Document.Basic

/-! Changes of a document: another margin for a line, and text inserted anywhere. The table of line
starts is cut after the line that a change touches first. -/
namespace SqlMargin.Document

/-- The line starts noted up to that of line `i` stay right when lines from `i` on change. -/
theorem take_starts_isPrefix (d : Document) (i : Nat) (ls : List (List Char))
    (hd : i < d.lines.length) (hl : i < ls.length) (h : d.lines.take i = ls.take i) :
    d.starts.take (i + 1) <+: Text.offsetsFrom 0 ls := by
  rw [List.prefix_iff_eq_take.1 d.starts_offsets, List.take_take, Nat.min_comm, ← List.take_take,
    Text.take_offsetsFrom 0 i d.lines ls hd hl h]
  exact (List.take_prefix ..).trans (List.take_prefix ..)

theorem take_starts_ne_nil (d : Document) (i : Nat) : d.starts.take (i + 1) ≠ [] := by
  have h := d.length_starts_pos
  rw [← List.length_pos_iff, List.length_take]
  omega

/-- Characters before line `i`, in it and after it. -/
theorem length_eq (d : Document) (i : Nat) (h : i < d.lineCount) :
    d.length = Text.extent (d.lines.take i) + (d.line i).length +
      Text.extent (d.lines.drop (i + 1)) := by
  have hs := d.length_succ
  have he := Text.extent_eq d.lines i h
  unfold line
  omega

/-- Puts other lines, of which there is at least one, in the place of line `i`. -/
def splice (d : Document) (i : Nat) (ls : List (List Char)) (length cursor : Nat)
    (hi : i < d.lineCount) (hn : ls ≠ []) (hl : ∀ l ∈ ls, '\n' ∉ l)
    (hlen : length + (d.line i).length + 1 = d.length + Text.extent ls) : Document where
  lines := d.lines.take i ++ ls ++ d.lines.drop (i + 1)
  length := length
  starts := d.starts.take (i + 1)
  cursor := cursor
  lines_ne_nil := by simp [hn]
  newline_notMem := by
    intro l h
    rcases List.mem_append.1 h with h | h
    · rcases List.mem_append.1 h with h | h
      · exact d.newline_notMem l (List.mem_of_mem_take h)
      · exact hl l h
    · exact d.newline_notMem l (List.mem_of_mem_drop h)
  length_succ := by
    have he := d.length_eq i hi
    simp only [Text.extent_append]
    omega
  starts_ne_nil := d.take_starts_ne_nil i
  starts_offsets := by
    have hp := List.length_pos_iff.2 hn
    unfold lineCount at hi
    apply d.take_starts_isPrefix i _ hi
    · simp only [List.length_append, List.length_take]
      omega
    · rw [List.append_assoc, List.take_append_of_le_length (by simp; omega), List.take_take,
        Nat.min_self]

theorem newline_notMem_line (d : Document) (i : Nat) : '\n' ∉ d.line i := by
  unfold line
  cases h : d.lines[i]? with
  | none => simp
  | some l => exact d.newline_notMem l (List.mem_of_getElem? h)

theorem newline_notMem_placed (m : Margin) (l : List Char) (h : '\n' ∉ l) :
    '\n' ∉ m.chars ++ contentOf l := by
  intro hm
  rcases List.mem_append.1 hm with hm | hm
  · exact m.newline_notMem hm
  · exact h (List.dropWhile_sublist _ |>.subset hm)

theorem newline_notMem_singleton {l : List Char} (h : '\n' ∉ l) : ∀ m ∈ [l], '\n' ∉ m :=
  fun _ hm => List.mem_singleton.1 hm ▸ h

/-- The length with another line in the place of line `i`. -/
theorem length_placed (d : Document) (i : Nat) (l : List Char) (h : i < d.lineCount) :
    d.length + l.length - (d.line i).length + (d.line i).length + 1 =
      d.length + Text.extent [l] := by
  have hd := d.length_eq i h
  simp only [Text.extent]
  omega

/-- Gives line `i`, which must be there, another margin. The cursor stays at its offset. -/
def replaceMargin (d : Document) (i : Nat) (m : Margin) : Document :=
  if h : i < d.lineCount then
    let l := m.chars ++ contentOf (d.line i)
    d.splice i [l] (d.length + l.length - (d.line i).length) d.cursor h (List.cons_ne_nil _ _)
      (newline_notMem_singleton (newline_notMem_placed m _ (d.newline_notMem_line i)))
      (d.length_placed i l h)
  else d

theorem lineAt_lt_noted (d : Document) (p : Int) :
    d.lineAt p < ((d.reachPast p).reach (d.lineAt p)).lineCount := by
  unfold lineCount reach reachPast
  rw [lines_noteWhile, lines_noteWhile]
  exact d.lineAt_lt p

/-- The length with some text inserted in line `i`. -/
theorem length_inserted (d : Document) (p : Int) (i column : Nat) (s : List Char) :
    d.length + s.length + (((d.reachPast p).reach i).line i).length + 1 =
      ((d.reachPast p).reach i).length +
        Text.extent (Text.splitLines ((d.line i).take column ++ s ++ (d.line i).drop column)) := by
  rw [Text.extent_splitLines]
  simp only [reach, reachPast, line, lines_noteWhile, length_noteWhile, List.length_append,
    List.length_take, List.length_drop]
  omega

/-- Inserts text at a position. A cursor there or further on moves with the text. -/
def insert (d : Document) (p : Int) (s : List Char) : Document :=
  let pos := d.clamp p
  let i := d.lineAt p
  let column := pos - d.lineStart i
  ((d.reachPast p).reach i).splice i
    (Text.splitLines ((d.line i).take column ++ s ++ (d.line i).drop column))
    (d.length + s.length) (if pos ≤ d.cursor then d.cursor + s.length else d.cursor)
    (d.lineAt_lt_noted p) (Text.splitLines_ne_nil _) (Text.newline_notMem_splitLines _)
    (d.length_inserted p i column s)

theorem lines_replaceMargin (d : Document) (i : Nat) (m : Margin) :
    (d.replaceMargin i m).lines = d.lines.modify i fun l => m.chars ++ contentOf l := by
  unfold replaceMargin
  split
  · next h =>
    unfold lineCount at h
    rw [List.modify_eq_take_cons_drop h]
    simp [splice, line, List.getElem?_eq_getElem h]
  · next h =>
    unfold lineCount at h
    rw [List.modify_eq_self (by omega)]

@[simp] theorem cursor_replaceMargin (d : Document) (i : Nat) (m : Margin) :
    (d.replaceMargin i m).cursor = d.cursor := by
  unfold replaceMargin
  split <;> rfl

theorem lines_insert (d : Document) (p : Int) (s : List Char) :
    (d.insert p s).lines = d.lines.take (d.lineAt p) ++
      Text.splitLines ((d.line (d.lineAt p)).take (d.clamp p - d.lineStart (d.lineAt p)) ++ s ++
        (d.line (d.lineAt p)).drop (d.clamp p - d.lineStart (d.lineAt p))) ++
      d.lines.drop (d.lineAt p + 1) := by
  simp [insert, splice, reach, reachPast]

end SqlMargin.Document
