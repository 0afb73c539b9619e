import SqlMargin.Proofs.Buffer.Questions
import SqlMargin.Proofs.Lexical.Hidden

/-! Margins and the lexical states around them. Documents whose lines hold the same after their
margins have the same state before each character of what the lines hold, and none of their lines
starts within a line comment. -/
namespace SqlMargin
open Lexical (scan lineState)

namespace Lexical

/-- Each line feed ends the line comment that it stands in. -/
lemma context_afterLines_ne (e : Bool) {s : State} (hs : s.context ≠ .lineComment)
    (ls : List (List Char)) : (afterLines e s ls).context ≠ .lineComment := by
  induction ls generalizing s with
  | nil => exact hs
  | cons l ls ih => exact ih (context_scan_newline_ne e s l)

end Lexical

namespace Document

lemma getD_contents (d : Document) (i : Nat) :
    (d.lines.map contentOf)[i]?.getD [] = contentOf (d.line i) := by
  rw [List.getElem?_map, line]
  cases d.lines[i]? with
  | none => rfl
  | some l => rfl

variable (d : Document) (e : Bool) {i : Nat} (hi : i < d.lineCount)

include hi

lemma scan_take_lineStart :
    scan e {} (d.text.take (d.lineStart i)) = lineState e d.lines i := by
  rw [d.lineStart_eq i hi]
  exact d.scan_take_text e i 0 hi (Nat.zero_le _)

/-- Of a line, only what follows its margin is seen by scanning. -/
lemma scan_take_marginEnd {k : Nat} (hk : k ≤ (contentOf (d.line i)).length) :
    scan e {} (d.text.take (d.marginEnd i + k)) =
      scan e (lineState e d.lines i) ((contentOf (d.line i)).take k) := by
  have hline : (d.line i).take ((d.margin i).length + k) =
      d.margin i ++ (contentOf (d.line i)).take k := by
    rw [margin, ← List.take_length_add_append, marginOf_append_contentOf]
  have hlength := congrArg List.length (marginOf_append_contentOf (d.line i))
  rw [List.length_append] at hlength
  have hmargin : ∀ c ∈ d.margin i, isIndent c = true := List.all_eq_true.1 List.all_takeWhile
  rw [marginEnd, d.lineStart_eq i hi, Nat.add_assoc, d.scan_take_text e i _ hi, hline,
    Lexical.scan_margin (Lexical.natural_lineState e d.lines i) e _ _ hmargin]
  unfold margin
  omega

end Document

/-- Two documents whose lines are equal but for their margins have, as far into the content of a
line as one likes, the same context, the same quote and as many open parentheses; and no line of a
document starts within a line comment. -/
theorem scan_of_contents (d d' : Document) (h : d.lines.map contentOf = d'.lines.map contentOf)
    (e : Bool) (i : Nat) (hi : i < d.lineCount) :
    (∀ k ≤ (contentOf (d.line i)).length,
      scan e {} (d.text.take (d.marginEnd i + k)) =
        scan e {} (d'.text.take (d'.marginEnd i + k))) ∧
      (scan e {} (d.text.take (d.lineStart i))).context ≠ .lineComment := by
  have hcount : d.lineCount = d'.lineCount := by
    simpa [Document.lineCount] using congrArg List.length h
  have hcontent : contentOf (d.line i) = contentOf (d'.line i) := by
    rw [← Document.getD_contents, h, Document.getD_contents]
  have hstate : lineState e d.lines i = lineState e d'.lines i := by
    rw [← Lexical.lineState_contents, h, Lexical.lineState_contents]
  refine ⟨fun k hk => ?_, ?_⟩
  · rw [d.scan_take_marginEnd e hi hk, hstate, hcontent]
    rw [hcontent] at hk
    exact (d'.scan_take_marginEnd e (by omega) hk).symm
  · rw [d.scan_take_lineStart e hi]
    exact Lexical.context_afterLines_ne e (by decide) _

/-- A literal goes on over an escaped line feed, and the tab in the next line of the one text stands
within it; a dash ends that line, and one starts the line after it. -/
theorem scan_of_contents_literal :
    let d := Document.ofText "(\x27a\\\n\tb\x27 -\n- c".toList 0
    let d' := Document.ofText " (\x27a\\\nb\x27 -\n  - c".toList 0
    d.lines.map contentOf = d'.lines.map contentOf ∧
      scan true {} (d.text.take (d.marginEnd 1 + 1)) =
        { context := .string, quote := some ['\x27'], depth := 1 } ∧
      scan true {} (d'.text.take (d'.marginEnd 1 + 1)) =
        { context := .string, quote := some ['\x27'], depth := 1 } ∧
      scan true {} (d.text.take (d.marginEnd 2 + 1)) =
        scan true {} (d'.text.take (d'.marginEnd 2 + 1)) := by
  intro d d'
  have hcontents : d.lines.map contentOf = d'.lines.map contentOf := by decide
  have hstate : scan true {} (d.text.take (d.marginEnd 1 + 1)) =
      { context := .string, quote := some ['\x27'], depth := 1 } := by decide
  have hsecond := (scan_of_contents d d' hcontents true 1 (by decide)).1 1 (by decide)
  exact ⟨hcontents, hstate, hsecond.symm.trans hstate,
    (scan_of_contents d d' hcontents true 2 (by decide)).1 1 (by decide)⟩

end SqlMargin
