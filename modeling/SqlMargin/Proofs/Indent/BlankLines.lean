import SqlMargin.Proofs.Indent.Bounds
import SqlMargin.Proofs.Settings.Check

/-! Blank lines are neutral. The lines of a text that are not blank come out of a pass as they do
without the blank lines between them, and whether blank lines are indented or emptied. Only the room
that their margins take makes a difference: there may be enough without them. -/
namespace SqlMargin

namespace Text

/-- The lines of a text that are not blank. -/
def codeLines (t : List Char) : List (List Char) := (splitLines t).filter fun l => !allBlank l

/-- A text without its blank lines. -/
def dense (t : List Char) : List Char := joinLines (codeLines t)

lemma extent_filter_le (p : List Char → Bool) (ls : List (List Char)) :
    extent (ls.filter p) ≤ extent ls := by
  induction ls with
  | nil => exact Nat.le_refl _
  | cons l ls ih =>
    rw [List.filter_cons, extent]
    split
    · exact Nat.add_le_add_left ih _
    · exact ih.trans (Nat.le_add_left ..)

lemma splitLines_dense {t : List Char} (h : ∃ l ∈ splitLines t, allBlank l = false) :
    splitLines (dense t) = codeLines t := by
  apply cut_glue
  · obtain ⟨l, hl, hb⟩ := h
    exact List.ne_nil_of_mem (List.mem_filter.2 ⟨hl, by simp [hb]⟩)
  · intro l hl
    exact newline_notMem_splitLines t l (List.mem_filter.1 hl).1

end Text

namespace Outline

variable (s : Style) (ls : List (List Char))

/-- Without the blank lines, a pass leaves the others where it leaves them. -/
theorem layout_filter :
    layout s (ls.filter fun l => !Text.allBlank l) =
      (layout s ls).filter fun l => !Text.allBlank l := by
  rw [Carry.layout_eq, Carry.layout_eq, Carry.steady_default.visits_filter, List.filter_map]
  congr 1
  apply List.filter_congr
  intro v _
  rw [Function.comp_apply, Carry.line, allBlank_place]

/-- What is carried does not hang on whether blank lines are indented. -/
lemma visits_blankLines (b : Bool) (k : Carry) :
    Carry.visits { s with blankLines := b } k ls = Carry.visits s k ls := by
  induction ls generalizing k with
  | nil => rfl
  | cons l ls ih => exact congrArg ((k, l) :: ·) (ih (k.next s l))

lemma filter_layout_blankLines (b : Bool) :
    ((layout { s with blankLines := b } ls).filter fun l => !Text.allBlank l) =
      (layout s ls).filter fun l => !Text.allBlank l := by
  rw [← layout_filter, ← layout_filter, Carry.layout_eq, Carry.layout_eq, visits_blankLines]
  apply List.map_congr_left
  intro v hv
  rw [Carry.steady_default.visits_filter] at hv
  have hb : Text.allBlank v.2 = false := by simpa using (List.mem_filter.1 hv).2
  simp only [Carry.line, hb, Bool.false_and]
  rfl

/-- Lines that are emptied take no more than they do with margins. -/
lemma extent_layout_emptied_le :
    Text.extent (layout { s with blankLines := false } ls) ≤
      Text.extent (layout { s with blankLines := true } ls) := by
  rw [Carry.layout_eq, Carry.layout_eq, visits_blankLines s ls false, visits_blankLines s ls true]
  generalize Carry.visits s {} ls = vs
  induction vs with
  | nil => exact Nat.le_refl _
  | cons v vs ih =>
    have hline : (Carry.line { s with blankLines := false } v).length ≤
        (Carry.line { s with blankLines := true } v).length := by
      unfold Carry.line
      cases Text.allBlank v.2 with
      | true => simp [Margin.empty]
      | false => exact Nat.le_refl _
    exact Nat.add_le_add (Nat.add_le_add_right hline 1) ih

end Outline

/-- Blank lines are neutral in a text with some line that is not blank. If the text is indented, so
is the text without its blank lines, and its lines are the lines of the first outcome that are not
blank. If the text is indented with its blank lines, it is with these emptied, and the lines that
are not blank are the same. A text is indented in any case if there is room for an offset for each
of its characters in each line. -/
theorem indentText_blank_lines [Memory] (settings : Settings) (s : Style)
    (hs : settings.style = .ok s) (t : List Char)
    (ht : ∃ l ∈ Text.splitLines t, Text.allBlank l = false) :
    (∀ u, indentText settings t = .ok u → ∃ u', indentText settings (Text.dense t) = .ok u' ∧
      Text.codeLines u = Text.splitLines u') ∧
    (∀ u, indentText (settings.set .indentBlankLines (.bool true)) t = .ok u →
      ∃ v, indentText (settings.set .indentBlankLines (.bool false)) t = .ok v ∧
        Text.codeLines v = Text.codeLines u) ∧
    ((Text.splitLines t).length * (s.offset * t.length) + t.length ≤ Memory.room →
      (∃ u, indentText settings t = .ok u) ∧
        ∀ b, ∃ u, indentText (settings.set .indentBlankLines (.bool b)) t = .ok u) := by
  have hdense := Text.splitLines_dense ht
  refine ⟨fun u hu => ?_, fun u hu => ?_, fun hroom => ⟨?_, fun b => ?_⟩⟩
  · obtain ⟨hlines, hroom⟩ := (indentText_eq_ok_iff hs).1 hu
    have hcode : Text.codeLines u = Outline.layout s (Text.splitLines (Text.dense t)) := by
      rw [hdense, Text.codeLines, hlines]
      exact (Outline.layout_filter s _).symm
    have hfewer := Text.extent_filter_le (fun l => !Text.allBlank l) (Text.splitLines u)
    rw [Text.extent_splitLines] at hfewer
    obtain ⟨u', hu', hsplit⟩ := exists_indentText_of_le hs (t := Text.dense t) (by
      rw [← hcode]
      exact hfewer.trans (Nat.add_le_add_right hroom 1))
    exact ⟨u', hu', hcode.trans hsplit.symm⟩
  · obtain ⟨hlines, hroom⟩ :=
      (indentText_eq_ok_iff (Settings.style_set_indentBlankLines hs true)).1 hu
    have hless := Outline.extent_layout_emptied_le s (Text.splitLines t)
    rw [← hlines, Text.extent_splitLines] at hless
    obtain ⟨v, hv, hsplit⟩ := exists_indentText_of_le
      (Settings.style_set_indentBlankLines hs false) (hless.trans (Nat.add_le_add_right hroom 1))
    refine ⟨v, hv, ?_⟩
    rw [Text.codeLines, hsplit, Text.codeLines, hlines,
      Outline.filter_layout_blankLines s _ true, Outline.filter_layout_blankLines s _ false]
  · exact indentText_ok_of_le hs hroom
  · exact indentText_ok_of_le (Settings.style_set_indentBlankLines hs b) hroom

section Ample

attribute [local instance] Memory.ample

/-- Two lines with blank ones around and between them, one of which is not even empty. -/
theorem indentText_blank_lines_between :
    let t := "\nselect (\n \r\n\na)\n".toList
    Text.dense t = "select (\na)".toList ∧ ∃ u u', indentText {} t = .ok u ∧
      indentText {} (Text.dense t) = .ok u' ∧ Text.codeLines u = Text.splitLines u' := by
  intro t
  obtain ⟨hlines, _, hsmall⟩ := indentText_blank_lines {} _ rfl t (by decide +kernel)
  obtain ⟨⟨u, hu⟩, _⟩ := hsmall (by decide +kernel)
  obtain ⟨u', hu', he⟩ := hlines u hu
  exact ⟨by decide +kernel, u, u', hu, hu', he⟩

/-- An offset as large as a count of characters: a blank line after a parenthesis cannot be
indented, while the text without it can, and the text with it emptied. -/
theorem indentText_blank_line_too_wide :
    let settings : Settings := { indentOffset := .int 9223372036854775808 }
    let t := "a (\n\n) b".toList
    (∃ s, settings.style = .ok s) ∧ (∃ l ∈ Text.splitLines t, Text.allBlank l = false) ∧
      indentText settings t = .error .countTooLarge ∧
      indentText settings (Text.dense t) = .ok "a (\n) b".toList ∧
      indentText (settings.set .indentBlankLines (.bool false)) t = .ok t := by
  refine ⟨⟨_, rfl⟩, ?_, ?_, ?_, ?_⟩
  · decide +kernel
  · decide +kernel
  · decide +kernel
  · decide +kernel

end Ample
end SqlMargin
