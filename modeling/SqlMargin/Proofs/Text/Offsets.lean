import Mathlib.Tactic.Lemma
import SqlMargin.Text.Lines

/-! Offsets in a text made of lines: what stands before an offset and after it, how many line feeds
come before it, and where a line starts. -/
namespace SqlMargin.Text

/-- Lines with a line feed after each. -/
def ended (ls : List (List Char)) : List Char := ls.flatMap fun l => l ++ ['\n']

/-- Lines with a line feed before each. -/
def begun (ls : List (List Char)) : List Char := ls.flatMap fun l => '\n' :: l

@[simp] lemma length_ended (ls : List (List Char)) : (ended ls).length = extent ls := by
  induction ls with
  | nil => rfl
  | cons l ls ih =>
    rw [ended] at ih
    simp only [ended, List.flatMap_cons, List.length_append, List.length_singleton, extent, ih]

lemma joinLines_cons (l : List Char) (ls : List (List Char)) (h : ls ≠ []) :
    joinLines (l :: ls) = l ++ '\n' :: joinLines ls := by
  cases ls with
  | nil => exact absurd rfl h
  | cons m ms => rfl

/-- A text read around some of its lines. -/
lemma joinLines_append (xs ms ys : List (List Char)) (h : ms ≠ []) :
    joinLines (xs ++ ms ++ ys) = ended xs ++ joinLines ms ++ begun ys := by
  induction xs with
  | nil =>
    cases ms with
    | nil => exact absurd rfl h
    | cons m ms => simp [joinLines, glue_cons, ended, begun]
  | cons x xs ih =>
    rw [List.cons_append, List.cons_append, joinLines_cons _ _ (by simp [h]), ih]
    simp [ended]

/-- A text read before and after a line feed. -/
lemma joinLines_append_lines (xs ys : List (List Char)) (hx : xs ≠ []) (hy : ys ≠ []) :
    joinLines (xs ++ ys) = joinLines xs ++ '\n' :: joinLines ys := by
  have h := joinLines_append [] xs ys hx
  cases ys with
  | nil => exact absurd rfl hy
  | cons y ys => simpa [ended, begun, joinLines, glue_cons] using h

lemma splitLines_append_newline (a b : List Char) :
    splitLines (a ++ '\n' :: b) = splitLines a ++ splitLines b := by
  have h := joinLines_append_lines (splitLines a) (splitLines b) (splitLines_ne_nil a)
    (splitLines_ne_nil b)
  rw [joinLines_splitLines, joinLines_splitLines] at h
  rw [← h]
  apply cut_glue
  · simp
  · intro l hl
    rcases List.mem_append.1 hl with hl | hl
    · exact newline_notMem_splitLines a l hl
    · exact newline_notMem_splitLines b l hl

lemma splitLines_ended_append {ls : List (List Char)} {l : List Char}
    (hls : ∀ m ∈ ls, '\n' ∉ m) (hl : '\n' ∉ l) : splitLines (ended ls ++ l) = ls ++ [l] := by
  have hended : ended ls ++ l = joinLines (ls ++ [l]) := by
    have hjoin := joinLines_append ls [l] [] (by simp)
    rw [List.append_nil] at hjoin
    rw [hjoin, begun, List.flatMap_nil, List.append_nil]
    rfl
  rw [hended]
  apply cut_glue _ _ (by simp)
  intro m hm
  rcases List.mem_append.1 hm with hm | hm
  · exact hls m hm
  · exact List.mem_singleton.1 hm ▸ hl

/-- A text read around line `i`. -/
lemma joinLines_eq (ls : List (List Char)) (i : Nat) (h : i < ls.length) :
    joinLines ls = ended (ls.take i) ++ (ls[i]?.getD [] ++ begun (ls.drop (i + 1))) := by
  have e : ls.take i ++ [ls[i]] ++ ls.drop (i + 1) = ls := by simp
  have hj := joinLines_append (ls.take i) [ls[i]] (ls.drop (i + 1)) (by simp)
  rw [e, List.append_assoc] at hj
  rw [hj, List.getElem?_eq_getElem h]
  rfl

theorem take_joinLines (ls : List (List Char)) (i c : Nat) (h : i < ls.length)
    (hc : c ≤ (ls[i]?.getD []).length) :
    (joinLines ls).take (extent (ls.take i) + c) =
      ended (ls.take i) ++ (ls[i]?.getD []).take c := by
  rw [joinLines_eq ls i h, ← length_ended, List.take_length_add_append,
    List.take_append_of_le_length hc]

theorem drop_joinLines (ls : List (List Char)) (i c : Nat) (h : i < ls.length)
    (hc : c ≤ (ls[i]?.getD []).length) :
    (joinLines ls).drop (extent (ls.take i) + c) =
      (ls[i]?.getD []).drop c ++ begun (ls.drop (i + 1)) := by
  rw [joinLines_eq ls i h, ← length_ended, List.drop_length_add_append,
    List.drop_append_of_le_length hc]

lemma count_ended (ls : List (List Char)) (h : ∀ l ∈ ls, '\n' ∉ l) :
    (ended ls).count '\n' = ls.length := by
  induction ls with
  | nil => rfl
  | cons l ls ih =>
    have hl := List.count_eq_zero.2 (h l List.mem_cons_self)
    have ih := ih fun x hx => h x (List.mem_cons_of_mem l hx)
    rw [ended] at ih
    simp [ended, List.count_append, hl, ih]

/-- Offset just past the first `i` line feeds of a text. -/
def lineOffset : List Char → Nat → Nat
  | _, 0 => 0
  | [], _ + 1 => 0
  | c :: s, i + 1 => (if c = '\n' then lineOffset s i else lineOffset s (i + 1)) + 1

lemma lineOffset_append_newline (l s : List Char) (i : Nat) (h : '\n' ∉ l) :
    lineOffset (l ++ '\n' :: s) (i + 1) = l.length + 1 + lineOffset s i := by
  induction l with
  | nil =>
    simp only [List.nil_append, lineOffset, if_true, List.length_nil]
    omega
  | cons c l ih =>
    rw [List.mem_cons, not_or] at h
    have ih := ih h.2
    simp only [List.cons_append, lineOffset, Ne.symm h.1, if_false, ih, List.length_cons]
    omega

/-- Line `i` of a text starts just past the `i`-th line feed. -/
theorem lineOffset_joinLines (ls : List (List Char)) (i : Nat) (hi : i < ls.length)
    (h : ∀ l ∈ ls, '\n' ∉ l) : lineOffset (joinLines ls) i = extent (ls.take i) := by
  induction ls generalizing i with
  | nil => simp at hi
  | cons l ls ih =>
    cases i with
    | zero => simp [lineOffset, extent]
    | succ i =>
      have hi : i < ls.length := by simpa using hi
      have hn : ls ≠ [] := List.length_pos_iff.1 (by omega)
      rw [joinLines_cons l ls hn, lineOffset_append_newline _ _ _ (h l List.mem_cons_self),
        ih i hi fun x hx => h x (List.mem_cons_of_mem l hx)]
      rfl

theorem count_joinLines (ls : List (List Char)) (hn : ls ≠ []) (h : ∀ l ∈ ls, '\n' ∉ l) :
    (joinLines ls).count '\n' + 1 = ls.length := by
  induction ls with
  | nil => exact absurd rfl hn
  | cons l ls ih =>
    have hl := List.count_eq_zero.2 (h l List.mem_cons_self)
    by_cases he : ls = []
    · subst he
      simp [joinLines, glue, hl]
    · have ih := ih he fun x hx => h x (List.mem_cons_of_mem l hx)
      rw [joinLines_cons l ls he, List.count_append, List.count_cons_self, hl, List.length_cons, ← ih]
      omega

end SqlMargin.Text
