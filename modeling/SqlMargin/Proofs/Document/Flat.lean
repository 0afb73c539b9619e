import SqlMargin.Proofs.Buffer.History

/-! Documents as plain texts. However a document keeps its lines, its length and its line starts,
after any calls it is the text that the same calls make of a plain list of characters, and it
answers as that text says. -/
namespace SqlMargin
open Edit (Answers Keeps perform)

namespace Document

/-- The position in line, column and text. -/
lemma lineAt_column_eq (d : Document) (p : Int) :
    ∃ c, c ≤ (d.line (d.lineAt p)).length ∧
      d.clamp p = Text.extent (d.lines.take (d.lineAt p)) + c := by
  obtain ⟨_, hl, hr⟩ := d.lineAt_spec p
  exact ⟨d.clamp p - Text.extent (d.lines.take (d.lineAt p)), by omega, by omega⟩

theorem text_insert (d : Document) (p : Int) (t : List Char) :
    (d.insert p t).text = d.text.take (d.clamp p) ++ t ++ d.text.drop (d.clamp p) := by
  have hlt := d.lineAt_lt p
  obtain ⟨c, hc, hp⟩ := d.lineAt_column_eq p
  have hcol : d.clamp p - d.lineStart (d.lineAt p) = c := by
    rw [d.lineStart_eq _ hlt]
    omega
  unfold text
  rw [lines_insert, hcol, Text.joinLines_append _ _ _ (Text.splitLines_ne_nil _),
    Text.joinLines_splitLines, hp, Text.take_joinLines _ _ _ hlt hc,
    Text.drop_joinLines _ _ _ hlt hc]
  simp [line]

/-- A line's margin ends before its line feed. -/
lemma contentOf_append_begun (l : List Char) (ls : List (List Char)) :
    contentOf (l ++ Text.begun ls) = contentOf l ++ Text.begun ls := by
  unfold contentOf
  rw [List.dropWhile_append]
  cases h : (l.dropWhile isIndent).isEmpty with
  | false => rfl
  | true =>
    rw [List.isEmpty_iff] at h
    cases ls with
    | nil => simp [Text.begun, h]
    | cons m ms => simp [Text.begun, h, isIndent]

theorem text_replaceMargin (d : Document) (i : Nat) (m : Margin) (h : i < d.lineCount) :
    (d.replaceMargin i m).text =
      d.text.take (Text.extent (d.lines.take i)) ++ m.chars ++
        contentOf (d.text.drop (Text.extent (d.lines.take i))) := by
  have htake := Text.take_joinLines d.lines i 0 h (Nat.zero_le _)
  have hdrop := Text.drop_joinLines d.lines i 0 h (Nat.zero_le _)
  rw [Nat.add_zero, List.take_zero, List.append_nil] at htake
  rw [Nat.add_zero, List.drop_zero] at hdrop
  unfold text
  rw [htake, hdrop, contentOf_append_begun, lines_replaceMargin, List.modify_eq_take_cons_drop h,
    ← List.singleton_append, ← List.append_assoc, Text.joinLines_append _ _ _ (by simp)]
  simp [Text.joinLines, Text.glue, List.getElem?_eq_getElem h]

/-- There are as many lines as line feeds, and one more. -/
lemma count_text (d : Document) : d.text.count '\n' + 1 = d.lineCount :=
  Text.count_joinLines d.lines d.lines_ne_nil d.newline_notMem

lemma lineOffset_text (d : Document) (i : Nat) (h : i < d.lineCount) :
    Text.lineOffset d.text i = Text.extent (d.lines.take i) :=
  Text.lineOffset_joinLines d.lines i h d.newline_notMem

theorem lineAt_eq_count (d : Document) (p : Int) :
    d.lineAt p = (d.text.take (d.clamp p)).count '\n' := by
  obtain ⟨c, hc, hp⟩ := d.lineAt_column_eq p
  have hlt := d.lineAt_lt p
  have habove : (Text.ended (d.lines.take (d.lineAt p))).count '\n' = d.lineAt p := by
    rw [Text.count_ended _ fun l hl => d.newline_notMem l (List.mem_of_mem_take hl),
      List.length_take]
    exact Nat.min_eq_left (Nat.le_of_lt hlt)
  have hline : ((d.line (d.lineAt p)).take c).count '\n' = 0 :=
    List.count_eq_zero.2 fun h => d.newline_notMem_line _ (List.mem_of_mem_take h)
  unfold line at hline
  rw [hp, text, Text.take_joinLines _ _ _ hlt hc, List.count_append, habove, hline, Nat.add_zero]

/-- What a call makes of a plain text. An edit that asks for a line that is not there, or for a
margin that is none, makes nothing of it. -/
def Call.flat (c : Call) (s : List Char) : List Char :=
  match c with
  | .insert p t => s.take (min p.toNat s.length) ++ t ++ s.drop (min p.toNat s.length)
  | .replaceMargin n m =>
    if m.all isIndent ∧ 0 ≤ n ∧ n < s.count '\n' + 1 then
      s.take (Text.lineOffset s n.toNat) ++ m ++ contentOf (s.drop (Text.lineOffset s n.toNat))
    else s
  | _ => s

end Document

/-- A line number from outside is good or it is reported, and then nothing else happens. -/
lemma Edit.perform_onLine {α : Type} (b : Buffer) (n : Int) (ask : Nat → Edit α) :
    perform b (onLine n ask) =
      if 0 ≤ n ∧ n < b.document.lineCount then perform b (ask n.toNat)
      else (.error (b.document.outside n), b) := by
  unfold onLine checkLine Document.checkLine
  rw [perform_bind, perform_bind_ok (perform_document b), perform_lift]
  by_cases hn : 0 ≤ n ∧ n < b.document.lineCount
  · simp only [if_pos hn]
  · simp only [if_neg hn]

namespace Document

lemma text_replaceMarginCall (b : Buffer) (n : Int) (m : List Char) :
    (perform b (Edit.replaceMargin n m)).2.document.text =
      (Call.replaceMargin n m).flat b.document.text := by
  have hcount := b.document.count_text
  unfold Edit.replaceMargin Margin.ofText? Call.flat
  by_cases hm : m.all isIndent = true
  · simp only [hm, dite_true, Edit.perform_onLine, true_and]
    by_cases hn : 0 ≤ n ∧ n < b.document.lineCount
    · have hlt : n.toNat < b.document.lineCount := by omega
      rw [if_pos hn, if_pos (by omega), Edit.perform_modify, b.document.lineOffset_text _ hlt]
      simp only [Buffer.replaceMargin, Buffer.document_changed]
      exact b.document.text_replaceMargin _ _ hlt
    · rw [if_neg hn, if_neg (by omega)]
  · simp [hm]

/-- One call does to a document what it does to the plain text. -/
theorem text_call (b : Buffer) (c : Call) :
    (perform b c.work).2.document.text = c.flat b.document.text := by
  have reads : ∀ {α : Type} {work : Edit α}, Keeps b.Reads work →
      (perform b (do let _ ← work)).2.document.text = b.document.text := fun h => by
    unfold text
    rw [(h.discard b (.refl b)).lines]
  cases c with
  | insert p t =>
    change ((b.insert p t).document).text = _
    rw [Buffer.insert, Buffer.document_changed, text_insert, clamp, ← length_text]
    rfl
  | replaceMargin n m => exact text_replaceMarginCall b n m
  | moveCursor p => rfl
  | lineStart n => exact reads (Edit.keeps_onLine n Edit.keeps_lineStart)
  | lineEnd n => exact reads (Edit.keeps_onLine n Edit.keeps_lineEnd)
  | marginEnd n => exact reads (Edit.keeps_onLine n Edit.keeps_marginEnd)
  | line n => exact reads (Edit.keeps_onLine n fun _ => Keeps.document.bind fun _ => .pure _)
  | lineAt p => exact reads (Edit.keeps_lineAt p)
  | cursorLine => exact reads Edit.keeps_cursorLine

lemma text_after [Memory] (b : Buffer) (calls : List Call) :
    (b.after (calls.map .document)).document.text =
      calls.foldl (fun s c => c.flat s) b.document.text := by
  induction calls generalizing b with
  | nil => rfl
  | cons c calls ih =>
    rw [List.foldl_cons, ← text_call b c]
    exact ih _

end Document
end SqlMargin
