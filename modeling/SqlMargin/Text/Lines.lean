/-! Texts cut at a character, such as lines at line feeds. Cutting gives at least one piece, no
piece holds the character, and joining the pieces gives the text back. -/
namespace SqlMargin.Text

/-- The pieces of a text between the places of a character; there is always at least one. -/
def cut (mark : Char) : List Char → List (List Char)
  | [] => [[]]
  | c :: s =>
    if c = mark then [] :: cut mark s
    else match cut mark s with
      | [] => [[c]]
      | l :: ls => (c :: l) :: ls

/-- The text whose pieces are given. -/
def glue (mark : Char) : List (List Char) → List Char
  | [] => []
  | [l] => l
  | l :: ls => l ++ mark :: glue mark ls

theorem glue_cons (mark : Char) (l : List Char) (ls : List (List Char)) :
    glue mark (l :: ls) = l ++ ls.flatMap fun m => mark :: m := by
  induction ls generalizing l with
  | nil => simp [glue]
  | cons m ls ih => simp [glue, ih]

@[simp] theorem cut_ne_nil (mark : Char) (s : List Char) : cut mark s ≠ [] := by
  cases s with
  | nil => simp [cut]
  | cons c s =>
    by_cases h : c = mark
    · simp [cut, h]
    · simp only [cut, h, if_false]
      split <;> simp

theorem notMem_of_mem_cut (mark : Char) (s : List Char) : ∀ l ∈ cut mark s, mark ∉ l := by
  induction s with
  | nil => simp [cut]
  | cons c s ih =>
    intro l hl
    by_cases h : c = mark
    · simp only [cut, h, if_true, List.mem_cons] at hl
      rcases hl with rfl | hl
      · simp
      · exact ih l hl
    · simp only [cut, h, if_false] at hl
      split at hl
      · next e => exact absurd e (cut_ne_nil mark s)
      · next l' ls e =>
        rw [e] at ih
        rcases List.mem_cons.1 hl with rfl | hl
        · have := ih l' (by simp)
          simp [this, Ne.symm h]
        · exact ih l (by simp [hl])

@[simp] theorem glue_cut (mark : Char) (s : List Char) : glue mark (cut mark s) = s := by
  induction s with
  | nil => rfl
  | cons c s ih =>
    by_cases h : c = mark
    · simp only [cut, h, if_true]
      cases e : cut mark s with
      | nil => exact absurd e (cut_ne_nil mark s)
      | cons l ls => rw [e] at ih; simp [glue, ih]
    · simp only [cut, h, if_false]
      cases e : cut mark s with
      | nil => exact absurd e (cut_ne_nil mark s)
      | cons l ls =>
        rw [e] at ih
        cases ls with
        | nil => simpa [glue] using ih
        | cons m ms => simpa [glue] using ih

theorem cut_append_mark (mark : Char) (l s : List Char) (h : mark ∉ l) :
    cut mark (l ++ mark :: s) = l :: cut mark s := by
  induction l with
  | nil => simp [cut]
  | cons c l ih =>
    rw [List.mem_cons, not_or] at h
    simp [cut, Ne.symm h.1, ih h.2]

theorem cut_of_notMem (mark : Char) (l : List Char) (h : mark ∉ l) : cut mark l = [l] := by
  induction l with
  | nil => rfl
  | cons c l ih =>
    rw [List.mem_cons, not_or] at h
    simp [cut, Ne.symm h.1, ih h.2]

theorem cut_glue (mark : Char) (ls : List (List Char)) (hn : ls ≠ [])
    (h : ∀ l ∈ ls, mark ∉ l) : cut mark (glue mark ls) = ls := by
  induction ls with
  | nil => exact absurd rfl hn
  | cons l ls ih =>
    cases ls with
    | nil => exact cut_of_notMem mark l (h l (by simp))
    | cons m ms =>
      rw [glue, cut_append_mark mark l _ (h l (by simp))]
      · rw [ih (by simp) fun x hx => h x (List.mem_cons_of_mem l hx)]
      · simp

/-- The lines of a text. -/
def splitLines (s : List Char) : List (List Char) := cut '\n' s

/-- The text whose lines are given. -/
def joinLines (ls : List (List Char)) : List Char := glue '\n' ls

/-- The number of characters of lines, with a line feed after each. -/
def extent : List (List Char) → Nat
  | [] => 0
  | l :: ls => l.length + 1 + extent ls

/-- The offsets at which lines start when the first of them starts at `n`. -/
def offsetsFrom (n : Nat) : List (List Char) → List Nat
  | [] => []
  | l :: ls => n :: offsetsFrom (n + l.length + 1) ls

@[simp] theorem length_offsetsFrom (n : Nat) (ls : List (List Char)) :
    (offsetsFrom n ls).length = ls.length := by
  induction ls generalizing n with
  | nil => rfl
  | cons l ls ih => simp [offsetsFrom, ih]

theorem getElem?_offsetsFrom (n i : Nat) (ls : List (List Char)) (h : i < ls.length) :
    (offsetsFrom n ls)[i]? = some (n + extent (ls.take i)) := by
  induction ls generalizing n i with
  | nil => simp at h
  | cons l ls ih =>
    cases i with
    | zero => simp [offsetsFrom, extent]
    | succ i =>
      have hi : i < ls.length := by simpa using h
      simp only [offsetsFrom, List.getElem?_cons_succ, ih _ i hi, List.take_succ_cons, extent]
      congr 1
      omega

/-- Where a line starts hangs on the lines before it only. -/
theorem take_offsetsFrom (n i : Nat) (ls ms : List (List Char)) (hl : i < ls.length)
    (hm : i < ms.length) (h : ls.take i = ms.take i) :
    (offsetsFrom n ls).take (i + 1) = (offsetsFrom n ms).take (i + 1) := by
  induction i generalizing n ls ms with
  | zero =>
    cases ls with
    | nil => simp at hl
    | cons l ls =>
      cases ms with
      | nil => simp at hm
      | cons m ms => simp [offsetsFrom]
  | succ i ih =>
    cases ls with
    | nil => simp at hl
    | cons l ls =>
      cases ms with
      | nil => simp at hm
      | cons m ms =>
        rw [List.take_succ_cons, List.take_succ_cons] at h
        injection h with hlm h
        subst hlm
        have ih := ih (n + l.length + 1) ls ms (by simpa using hl) (by simpa using hm) h
        simpa [offsetsFrom] using ih

/-- The offset after some offsets follows from the last of them and the length of its line. -/
theorem concat_prefix_offsetsFrom (n : Nat) (s : List Nat) (ls : List (List Char)) (hs : s ≠ [])
    (h : s <+: offsetsFrom n ls) (hl : s.length < ls.length) :
    s ++ [s.getLast hs + (ls[s.length - 1]?.getD []).length + 1] <+: offsetsFrom n ls := by
  induction s generalizing n ls with
  | nil => exact absurd rfl hs
  | cons x s ih =>
    cases ls with
    | nil => simp at hl
    | cons l ls =>
      obtain ⟨hx, h⟩ := List.cons_prefix_cons.1 h
      subst hx
      have hl : s.length < ls.length := by simpa using hl
      cases s with
      | nil =>
        cases ls with
        | nil => simp at hl
        | cons m ms => simp [offsetsFrom]
      | cons y s => simpa [offsetsFrom] using ih (x + l.length + 1) ls (by simp) h hl

@[simp] theorem splitLines_ne_nil (s : List Char) : splitLines s ≠ [] := cut_ne_nil _ s

theorem newline_notMem_splitLines (s : List Char) : ∀ l ∈ splitLines s, '\n' ∉ l :=
  notMem_of_mem_cut _ s

@[simp] theorem joinLines_splitLines (s : List Char) : joinLines (splitLines s) = s := glue_cut _ s

theorem extent_append (xs ys : List (List Char)) : extent (xs ++ ys) = extent xs + extent ys := by
  induction xs with
  | nil => simp [extent]
  | cons l xs ih =>
    simp only [List.cons_append, extent, ih]
    omega

theorem length_joinLines (ls : List (List Char)) (h : ls ≠ []) :
    (joinLines ls).length + 1 = extent ls := by
  induction ls with
  | nil => exact absurd rfl h
  | cons l ls ih =>
    cases ls with
    | nil => simp [joinLines, glue, extent]
    | cons m ms =>
      have ih := ih (by simp)
      simp only [joinLines, glue, extent, List.length_append, List.length_cons] at ih ⊢
      omega

theorem extent_take_succ (ls : List (List Char)) (i : Nat) (h : i < ls.length) :
    extent (ls.take (i + 1)) = extent (ls.take i) + (ls[i]?.getD []).length + 1 := by
  rw [List.take_add_one, extent_append, List.getElem?_eq_getElem h]
  simp only [Option.toList_some, Option.getD_some, extent]
  omega

theorem extent_take_mono (ls : List (List Char)) {i j : Nat} (h : i ≤ j) :
    extent (ls.take i) ≤ extent (ls.take j) := by
  have e : ls.take i ++ (ls.take j).drop i = ls.take j := by
    have ht := List.take_append_drop i (ls.take j)
    rwa [List.take_take, Nat.min_eq_left h] at ht
  rw [← e, extent_append]
  omega

theorem extent_splitLines (s : List Char) : extent (splitLines s) = s.length + 1 := by
  rw [← length_joinLines (splitLines s) (splitLines_ne_nil s), joinLines_splitLines]

/-- The lines before line `i`, the line itself and those after it. -/
theorem extent_eq (ls : List (List Char)) (i : Nat) (h : i < ls.length) :
    extent ls = extent (ls.take i) + (ls[i]?.getD []).length + 1 + extent (ls.drop (i + 1)) := by
  have e : ls.take i ++ ls[i] :: ls.drop (i + 1) = ls := by
    rw [← List.drop_eq_getElem_cons h, List.take_append_drop]
  have he := congrArg extent e
  rw [extent_append, extent] at he
  simp only [List.getElem?_eq_getElem h, Option.getD_some]
  omega

end SqlMargin.Text
