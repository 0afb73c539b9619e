import Mathlib.Algebra.Order.Ring.Int
import Mathlib.Data.List.Forall2
import SqlMargin.Proofs.Buffer.History
import SqlMargin.Proofs.Indent.Bounds

/-! Levels and columns. The level of a line hangs on which words are keywords and on escapes; the
offset only says how many columns a level takes. So under any two offsets a pass puts lines at
columns in the ratio of the offsets, whatever the tabs are and however the margins were before. -/
namespace SqlMargin
open Edit (perform)
open Outline (delta placed placedAbove placedLevel emptied record records)

/-- Styles under which lines stand at the same levels. They may differ in their offsets and in how
margins are written. -/
structure Style.LevelsAs (s s' : Style) : Prop where
  keywords : s.keywords = s'.keywords
  escapes : s.escapes = s'.escapes

/-- Records of one line under offsets `o` and `o'`: the columns stand in the ratio of the
offsets. -/
structure Record.Scaled (o o' : Nat) (r r' : Record) : Prop where
  line : r.line = r'.line
  delta : r.delta = r'.delta
  newIndent : o' * r.newIndent = o * r'.newIndent
  previousIndent : o' * r.previousIndent = o * r'.previousIndent

variable {s s' : Style}

/-- The bound at column zero is kept when columns are scaled. -/
lemma Style.mul_newIndent (s s' : Style) {a a' : Nat} (d : Int)
    (h : s'.offset * a = s.offset * a') :
    s'.offset * s.newIndent ⟨d, a⟩ = s.offset * s'.newIndent ⟨d, a'⟩ := by
  have hscaled : (s'.offset : Int) * (a + s.offset * d) = s.offset * (a' + s'.offset * d) := by
    have hcast : (s'.offset : Int) * a = s.offset * a' := by exact_mod_cast h
    rw [Int.mul_add, Int.mul_add, hcast, Int.mul_left_comm]
  have hmax : ∀ (o : Nat) (x : Int), (o : Int) * x.toNat = max (o * x) 0 := by
    intro o x
    rw [Int.toNat_eq_max, mul_max_of_nonneg _ _ (Int.natCast_nonneg o), Int.mul_zero]
  have hsame : (s'.offset : Int) * s.newIndent ⟨d, a⟩ = s.offset * s'.newIndent ⟨d, a'⟩ := by
    unfold newIndent
    rw [hmax, hmax, hscaled]
  exact_mod_cast hsame

lemma Outline.mul_placedAbove {ls : List (List Char)} {i : Nat}
    (h : ∀ j < i, s'.offset * placed s ls j = s.offset * placed s' ls j) :
    s'.offset * placedAbove s ls i = s.offset * placedAbove s' ls i := by
  unfold placedAbove
  cases ha : above? ls i with
  | none => simp
  | some j => exact h j (above?_spec ls ha).1

namespace Style.LevelsAs

variable (h : s.LevelsAs s') (ls : List (List Char))

include h

lemma delta_eq (j i : Nat) : delta s ls j i = delta s' ls j i := by
  unfold delta Outline.hasKeyword
  rw [h.keywords, h.escapes]

/-- Columns of two passes, line by line. -/
theorem mul_placed (i : Nat) : s'.offset * placed s ls i = s.offset * placed s' ls i := by
  -- A line is placed from the line above it, so the ratio comes down from line to line.
  induction i using Nat.strongRecOn with
  | _ i ih =>
    rw [Outline.placed_eq, Outline.placed_eq, placedLevel, placedLevel, ← h.delta_eq]
    exact s.mul_newIndent s' _ (Outline.mul_placedAbove ih)

lemma record_scaled (i : Nat) :
    Record.Scaled s.offset s'.offset (record s ls i) (record s' ls i) := by
  have habove := Outline.mul_placedAbove fun j (_ : j < i) => h.mul_placed ls j
  refine ⟨rfl, h.delta_eq ls _ i, h.mul_placed ls i, ?_⟩
  change (s'.offset : Int) * placedAbove s ls i = s.offset * placedAbove s' ls i
  exact_mod_cast habove

lemma records_scaled (hblank : s.blankLines = s'.blankLines) (i n : Nat) :
    List.Forall₂ (Record.Scaled s.offset s'.offset) (records s ls i n) (records s' ls i n) := by
  have hemptied : emptied s ls = emptied s' ls := by
    funext j
    rw [emptied, emptied, hblank]
  unfold records
  rw [hemptied, List.forall₂_map_left_iff, List.forall₂_map_right_iff, List.forall₂_same]
  exact fun j _ => h.record_scaled ls j

end Style.LevelsAs

/-- Lines are put at whole levels. -/
lemma Outline.offset_dvd_placed (s : Style) (ls : List (List Char)) (i : Nat) :
    s.offset ∣ placed s ls i := by
  have hunit : s.LevelsAs { s with offset := 1, offset_pos := Nat.one_pos } := ⟨rfl, rfl⟩
  have h := hunit.mul_placed ls i
  rw [Nat.one_mul] at h
  exact ⟨_, h⟩

/-- Two buffers with any history, whose lines are equal but for their margins, and two styles that
differ in their offsets and in how margins are written. If both passes succeed they tell of the same
lines at the same levels, and columns are in the ratio of the offsets; they are multiples of the
offset. A pass succeeds if there is room for an offset for each character of the text in each line,
and it fails only where there is no room for a line. -/
theorem indentBuffer_scales [Memory] (settings settings' : Settings) (s s' : Style)
    (hs : settings.style = .ok s) (hs' : settings'.style = .ok s') (hlevels : s.LevelsAs s')
    (hblank : s.blankLines = s'.blankLines) (t t' : List Char) (c c' : Int)
    (calls calls' : List Buffer.Call)
    (hcontents : ((Buffer.ofText t c).after calls).document.lines.map contentOf =
      ((Buffer.ofText t' c').after calls').document.lines.map contentOf) :
    let b := (Buffer.ofText t c).after calls
    let b' := (Buffer.ofText t' c').after calls'
    let pass := (perform b (indentBuffer settings none)).1
    let pass' := (perform b' (indentBuffer settings' none)).1
    (∀ rs rs', pass = .ok rs → pass' = .ok rs' →
      List.Forall₂ (Record.Scaled s.offset s'.offset) rs rs') ∧
    (b.document.lineCount * (s.offset * b.document.length) + b.document.length ≤ Memory.room →
      b'.document.lineCount * (s'.offset * b'.document.length) + b'.document.length ≤ Memory.room →
      ∃ rs rs', pass = .ok rs ∧ pass' = .ok rs') ∧
    (∀ rs, pass = .ok rs → ∀ r ∈ rs, s.offset ∣ r.newIndent) ∧
    ∀ f, pass = .error f → f.TooLarge := by
  intro b b' pass pass'
  have hb : b.Sound := (Buffer.carries_after (Buffer.sound_ofText t c) calls).1
  have hb' : b'.Sound := (Buffer.carries_after (Buffer.sound_ofText t' c') calls').1
  have hpass := perform_indentBuffer_records hs hb (b.fits_none _) rfl
  have hpass' := perform_indentBuffer_records hs' hb' (b'.fits_none _) hcontents.symm
  refine ⟨fun rs rs' hrs hrs' => ?_, fun hroom hroom' => ?_, fun rs hrs r hr => ?_, fun f hf => ?_⟩
  · obtain ⟨_, _, rfl⟩ := exists_of_map_eq_ok (hpass.symm.trans hrs)
    obtain ⟨_, _, rfl⟩ := exists_of_map_eq_ok (hpass'.symm.trans hrs')
    exact hlevels.records_scaled _ hblank 0 _
  · have hown := perform_indentBuffer_records hs' hb' (b'.fits_none _) rfl
    rw [Outline.allFit_of_le b.document.length_succ hroom] at hpass
    rw [Outline.allFit_of_le b'.document.length_succ hroom'] at hown
    exact ⟨_, _, hpass, hown⟩
  · obtain ⟨_, _, rfl⟩ := exists_of_map_eq_ok (hpass.symm.trans hrs)
    obtain ⟨i, _, _, rfl⟩ := (Outline.mem_records s _).1 hr
    exact Outline.offset_dvd_placed s _ i
  · exact Outline.tooLarge_of_allFit s _ (eq_error_of_map_eq_error (hpass.symm.trans hf))

section Ample

attribute [local instance] Memory.ample

/-- Two columns a level against seven with tabs, on lines with other margins. One of the buffers
came to its lines by an edit, which cut a line in a literal. -/
theorem indentBuffer_scales_tabs :
    let settings : Settings := { indentOffset := .int 2 }
    let settings' : Settings := { indentOffset := .int 7, indentWithTabs := .bool true }
    let b := (Buffer.ofText "select (\n \"a\n  )".toList 3).after [.document (.insert 11 ['\n'])]
    let b' := (Buffer.ofText "  select (\n\"\na\n)".toList 0).after []
    ∃ rs rs', (perform b (indentBuffer settings none)).1 = .ok rs ∧
      (perform b' (indentBuffer settings' none)).1 = .ok rs' ∧
      List.Forall₂ (Record.Scaled 2 7) rs rs' := by
  intro settings settings' b b'
  obtain ⟨hscaled, hsmall, _⟩ := indentBuffer_scales settings settings' _ _ rfl rfl ⟨rfl, rfl⟩ rfl
    "select (\n \"a\n  )".toList "  select (\n\"\na\n)".toList 3 0
    [.document (.insert 11 ['\n'])] [] (by decide +kernel)
  obtain ⟨rs, rs', hrs, hrs'⟩ := hsmall (by decide +kernel) (by decide +kernel)
  exact ⟨rs, rs', hrs, hrs', hscaled rs rs' hrs hrs'⟩

/-- An offset as large as a count of characters: the line after a parenthesis cannot be indented,
while four columns a level can be written. -/
theorem indentBuffer_offset_too_wide :
    let settings : Settings := { indentOffset := .int 9223372036854775808 }
    let b := Buffer.ofText "a (\nb".toList 0
    (∃ s s', settings.style = .ok s ∧ ({} : Settings).style = .ok s' ∧ s.LevelsAs s' ∧
      s.blankLines = s'.blankLines) ∧
      (perform b (indentBuffer {} none)).1 = .ok [⟨0, 0, 0, 0⟩, ⟨1, 1, 0, 4⟩] ∧
      (perform b (indentBuffer settings none)).1 = .error .countTooLarge := by
  refine ⟨⟨_, _, rfl, rfl, ⟨rfl, rfl⟩, rfl⟩, ?_, ?_⟩
  · decide +kernel
  · decide +kernel

end Ample
end SqlMargin
