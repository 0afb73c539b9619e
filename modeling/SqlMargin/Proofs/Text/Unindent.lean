import Mathlib.Data.List.Basic
import Mathlib.Tactic.Lemma
import SqlMargin.Document.Margin
import SqlMargin.Text.Lines

/-! Texts without the margins of their lines. A reader who passes over spaces and tabs after each
line feed cannot tell such a text from the one it comes from. -/
namespace SqlMargin

lemma not_isIndent_newline : isIndent '\n' = false := rfl

/-- A text without the margins of its lines, that of its first line apart. -/
def unindent : List Char → List Char
  | [] => []
  | c :: s => if c = '\n' then c :: contentOf (unindent s) else c :: unindent s

/-- A text without the margins of its lines. -/
def flushLeft (s : List Char) : List Char := contentOf (unindent s)

section Unindent

variable {c : Char} {l s t m : List Char}

@[simp] lemma unindent_nil : unindent [] = [] := rfl

@[simp] lemma unindent_newline (s : List Char) : unindent ('\n' :: s) = '\n' :: flushLeft s := rfl

lemma unindent_cons_of_ne (h : c ≠ '\n') (s : List Char) : unindent (c :: s) = c :: unindent s :=
  if_neg h

lemma unindent_append_of_notMem (h : '\n' ∉ l) (s : List Char) :
    unindent (l ++ s) = l ++ unindent s := by
  induction l with
  | nil => rfl
  | cons c l ih =>
    rw [List.mem_cons, not_or] at h
    rw [List.cons_append, unindent_cons_of_ne (Ne.symm h.1), ih h.2, List.cons_append]

/-- A character before texts that are alike leaves them so. -/
lemma unindent_cons_congr (c : Char) (h : unindent s = unindent t) :
    unindent (c :: s) = unindent (c :: t) := by
  rw [unindent, unindent, h]

lemma unindent_append_congr (l : List Char) (h : unindent s = unindent t) :
    unindent (l ++ s) = unindent (l ++ t) := by
  induction l with
  | nil => exact h
  | cons c l ih => exact unindent_cons_congr c ih

lemma contentOf_cons_of_isIndent (h : isIndent c = true) (s : List Char) :
    contentOf (c :: s) = contentOf s := List.dropWhile_cons_of_pos h

lemma contentOf_cons_of_not_isIndent (h : isIndent c = false) (s : List Char) :
    contentOf (c :: s) = c :: s := List.dropWhile_cons_of_neg (by simp [h])

lemma contentOf_append (h : ∀ c ∈ m, isIndent c = true) (s : List Char) :
    contentOf (m ++ s) = contentOf s := List.dropWhile_append_of_pos h

lemma ne_newline_of_isIndent (h : isIndent c = true) : c ≠ '\n' := by
  rintro rfl
  cases h

/-- The margin of the first line is left alone. -/
lemma unindent_contentOf (s : List Char) : unindent (contentOf s) = flushLeft s := by
  unfold flushLeft
  induction s with
  | nil => rfl
  | cons c s ih =>
    cases h : isIndent c with
    | true =>
      rw [contentOf_cons_of_isIndent h, unindent_cons_of_ne (ne_newline_of_isIndent h),
        contentOf_cons_of_isIndent h, ih]
    | false =>
      rw [contentOf_cons_of_not_isIndent h]
      by_cases hc : c = '\n'
      · subst hc
        rfl
      · rw [unindent_cons_of_ne hc, contentOf_cons_of_not_isIndent h]

lemma flushLeft_append_of_isIndent (h : ∀ c ∈ m, isIndent c = true) (s : List Char) :
    flushLeft (m ++ s) = flushLeft s := by
  have hm : '\n' ∉ m := fun hmem => by simpa [not_isIndent_newline] using h _ hmem
  rw [flushLeft, unindent_append_of_notMem hm, contentOf_append h]
  rfl

lemma head?_unindent (s : List Char) : (unindent s).head? = s.head? := by
  cases s with
  | nil => rfl
  | cons c s =>
    rw [unindent]
    split <;> rfl

/-! The first line is left alone. -/

lemma takeWhile_unindent (s : List Char) :
    (unindent s).takeWhile (· != '\n') = s.takeWhile (· != '\n') := by
  induction s with
  | nil => rfl
  | cons c s ih =>
    by_cases hc : c = '\n'
    · subst hc
      rfl
    · rw [unindent_cons_of_ne hc, List.takeWhile_cons, List.takeWhile_cons, ih]

lemma drop_unindent (s : List Char) {n : Nat} (h : n ≤ (s.takeWhile (· != '\n')).length) :
    (unindent s).drop n = unindent (s.drop n) := by
  induction s generalizing n with
  | nil => simp
  | cons c s ih =>
    cases n with
    | zero => rfl
    | succ n =>
      by_cases hc : c = '\n'
      · subst hc
        simp at h
      · rw [unindent_cons_of_ne hc, List.drop_succ_cons, List.drop_succ_cons]
        apply ih
        simpa [hc] using h

lemma dropWhile_unindent (s : List Char) :
    (unindent s).dropWhile (· != '\n') = unindent (s.dropWhile (· != '\n')) := by
  induction s with
  | nil => rfl
  | cons c s ih =>
    by_cases hc : c = '\n'
    · subst hc
      rfl
    · rw [unindent_cons_of_ne hc, List.dropWhile_cons, List.dropWhile_cons, ih]
      simp [hc]

lemma countP_contentOf (s : List Char) :
    (contentOf s).countP (!isIndent ·) = s.countP (!isIndent ·) := by
  induction s with
  | nil => rfl
  | cons c s ih =>
    cases h : isIndent c with
    | true => rw [contentOf_cons_of_isIndent h, ih, List.countP_cons_of_neg (by simp [h])]
    | false => rw [contentOf_cons_of_not_isIndent h]

/-- Only characters of margins go. -/
lemma countP_flushLeft (s : List Char) :
    (flushLeft s).countP (!isIndent ·) = s.countP (!isIndent ·) := by
  rw [flushLeft, countP_contentOf]
  induction s with
  | nil => rfl
  | cons c s ih =>
    rw [unindent]
    split
    · rw [List.countP_cons, List.countP_cons, countP_contentOf, ih]
    · rw [List.countP_cons, List.countP_cons, ih]

lemma contentOf_append_mark (s t : List Char) {mark : Char} (h : isIndent mark = false) :
    contentOf (s ++ mark :: t) = contentOf s ++ mark :: t := by
  induction s with
  | nil => exact contentOf_cons_of_not_isIndent h t
  | cons c s ih =>
    cases hc : isIndent c with
    | true => rw [List.cons_append, contentOf_cons_of_isIndent hc, contentOf_cons_of_isIndent hc, ih]
    | false =>
      rw [List.cons_append, contentOf_cons_of_not_isIndent hc, contentOf_cons_of_not_isIndent hc,
        List.cons_append]

/-- A mark that belongs to no margin, at the end of a text. -/
lemma flushLeft_append_mark (s : List Char) {mark : Char} (hn : mark ≠ '\n')
    (h : isIndent mark = false) : flushLeft (s ++ [mark]) = flushLeft s ++ [mark] := by
  have hunindent : unindent (s ++ [mark]) = unindent s ++ [mark] := by
    induction s with
    | nil => exact unindent_cons_of_ne hn []
    | cons c s ih =>
      rw [List.cons_append, unindent, unindent, ih]
      split
      · rw [contentOf_append_mark _ [] h, List.cons_append]
      · rw [List.cons_append]
  rw [flushLeft, hunindent, contentOf_append_mark _ [] h, flushLeft]

/-! Line by line. -/

lemma contentOf_joinLines (l : List Char) (ls : List (List Char)) :
    contentOf (Text.joinLines (l :: ls)) = Text.joinLines (contentOf l :: ls) := by
  cases ls with
  | nil => rfl
  | cons m ls => exact contentOf_append_mark l _ not_isIndent_newline

lemma unindent_joinLines {ls : List (List Char)} (h : ∀ m ∈ l :: ls, '\n' ∉ m) :
    unindent (Text.joinLines (l :: ls)) = Text.joinLines (l :: ls.map contentOf) := by
  induction ls generalizing l with
  | nil =>
    have hl := unindent_append_of_notMem (h l List.mem_cons_self) []
    rwa [List.append_nil, unindent_nil, List.append_nil] at hl
  | cons m ls ih =>
    rw [List.forall_mem_cons] at h
    change unindent (l ++ '\n' :: Text.joinLines (m :: ls)) =
      l ++ '\n' :: Text.joinLines (contentOf m :: ls.map contentOf)
    rw [unindent_append_of_notMem h.1, unindent_newline, flushLeft, ih h.2, contentOf_joinLines]

/-- What is left of a text are the contents of its lines. -/
theorem flushLeft_eq (s : List Char) :
    flushLeft s = Text.joinLines ((Text.splitLines s).map contentOf) := by
  have hlines := Text.newline_notMem_splitLines s
  have hjoin := Text.joinLines_splitLines s
  cases hs : Text.splitLines s with
  | nil => exact absurd hs (Text.splitLines_ne_nil s)
  | cons l ls =>
    rw [hs] at hlines hjoin
    rw [← hjoin, flushLeft, unindent_joinLines hlines, contentOf_joinLines, List.map_cons]

end Unindent
end SqlMargin
