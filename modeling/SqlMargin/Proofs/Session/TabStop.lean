import Mathlib.Order.Bounds.Basic
import SqlMargin.Proofs.Document.Flat
import SqlMargin.Proofs.Indent.Columns
import SqlMargin.Proofs.Session.Interleaving

/-! The usual indent action of a session. It puts spaces in at the cursor, as many as lead from the
number of characters before it to a multiple of the tab width. That is a tab stop on the screen only
where tabs before the cursor, if there are any, take up whole stops together. -/
namespace SqlMargin
open Edit (perform)

/-! Columns on a screen. -/

/-- Where a character that stands in column `n` leads, with tab stops every `w` columns. -/
def advance (w n : Nat) (c : Char) : Nat := if c = '\t' then (n / w + 1) * w else n + 1

/-- The column in which a text ends that starts in column 0. -/
def displayWidth (w : Nat) (l : List Char) : Nat := l.foldl (advance w) 0

lemma foldl_advance (w n : Nat) (l : List Char) (h : '\t' ∉ l) :
    l.foldl (advance w) n = n + l.length := by
  induction l generalizing n with
  | nil => rfl
  | cons c l ih =>
    rw [List.mem_cons, not_or] at h
    rw [List.foldl_cons, ih _ h.2, advance, if_neg (Ne.symm h.1), List.length_cons]
    omega

lemma displayWidth_append_spaces (w n : Nat) (l : List Char) :
    displayWidth w (l ++ List.replicate n ' ') = displayWidth w l + n := by
  rw [displayWidth, List.foldl_append, foldl_advance, List.length_replicate]
  · rfl
  · exact fun h => absurd (List.eq_of_mem_replicate h) (by decide)

/-- Margins are measured as they are shown. -/
theorem columns_eq_displayWidth (w : Nat) (l : List Char) :
    columns w l = displayWidth w (marginOf l) := by
  have hfrom : ∀ n, columnsFrom w n l = (marginOf l).foldl (advance w) n := by
    induction l with
    | nil => exact fun _ => rfl
    | cons c l ih =>
      intro n
      unfold marginOf at ih ⊢
      rw [columnsFrom, List.takeWhile_cons]
      by_cases hspace : c = ' '
      · subst hspace
        rw [if_pos rfl, ih]
        rfl
      · by_cases htab : c = '\t'
        · subst htab
          rw [if_neg hspace, if_pos rfl, ih]
          rfl
        · rw [if_neg hspace, if_neg htab, if_neg (by simp [isIndent, hspace, htab])]
          rfl
  exact hfrom 0

/-- What leads from `m` columns to a stop leads from `n` columns to the next one if these are
equally far from it, and to none if they are not. -/
lemma isLeast_stop_iff {w m n : Nat} (hw : 0 < w) :
    IsLeast {stop | w ∣ stop ∧ n < stop} (n + (w - m % w)) ↔ n % w = m % w := by
  have hm := Nat.mod_lt m hw
  have hn := Nat.mod_lt n hw
  have hdiv := Nat.div_add_mod n w
  constructor
  · rintro ⟨⟨hdvd, -⟩, -⟩
    rw [← hdiv, Nat.add_assoc, Nat.dvd_add_right (Nat.dvd_mul_right w _)] at hdvd
    have hle := Nat.le_of_dvd (by omega) hdvd
    have hrest : w ∣ n % w + (w - m % w) - w := Nat.dvd_sub hdvd (Nat.dvd_refl w)
    have hzero := Nat.eq_zero_of_dvd_of_lt hrest (by omega)
    omega
  · intro h
    have hstop : n + (w - m % w) = w * (n / w + 1) := by
      rw [Nat.mul_add_one, ← h]
      omega
    rw [hstop]
    refine ⟨⟨Nat.dvd_mul_right w _, by rw [Nat.mul_add_one]; omega⟩, ?_⟩
    rintro stop ⟨⟨q, rfl⟩, hlt⟩
    have hq : n / w < q := Nat.div_lt_of_lt_mul hlt
    exact Nat.mul_le_mul_left w hq

/-! Cursors in their lines. -/

namespace Document

variable {d d' : Document}

/-- Where the line of the cursor ends. -/
def cursorLineEnd (d : Document) : Nat := d.lineStart d.cursorLine + (d.line d.cursorLine).length

/-- How many characters the cursor is past the start of its line. -/
def cursorColumn (d : Document) : Nat := d.cursor - d.lineStart d.cursorLine

/-- What stands before the cursor in its line. -/
def beforeCursor (d : Document) : List Char :=
  (d.line d.cursorLine).take (d.clamp d.cursor - d.lineStart d.cursorLine)

/-- The column of the cursor on a screen. -/
def displayColumn (w : Nat) (d : Document) : Nat := displayWidth w d.beforeCursor

lemma lineStart_cursorLine_le (d : Document) : d.lineStart d.cursorLine ≤ d.clamp d.cursor := by
  obtain ⟨hlt, hle, -⟩ := d.lineAt_spec d.cursor
  rw [cursorLine, d.lineStart_eq _ hlt]
  exact hle

lemma clamp_cursor_le (d : Document) : d.clamp d.cursor ≤ d.cursor := Nat.min_le_left ..

/-- In the text, all characters before the cursor count. -/
lemma length_beforeCursor (h : d.cursor ≤ d.length) : d.beforeCursor.length = d.cursorColumn := by
  obtain ⟨hlt, -, hle⟩ := d.lineAt_spec d.cursor
  have hclamp : d.clamp d.cursor = d.cursor := Nat.min_eq_left h
  have hstart := d.lineStart_eq _ hlt
  unfold beforeCursor cursorColumn
  rw [List.length_take, hclamp, Nat.min_eq_left]
  unfold cursorLine
  omega

/-- The text up to the cursor ends with what stands before it in its line. -/
lemma text_take_cursor (d : Document) :
    d.text.take (d.clamp d.cursor) = Text.ended (d.lines.take d.cursorLine) ++ d.beforeCursor := by
  obtain ⟨c, hc, hclamp⟩ := d.lineAt_column_eq d.cursor
  have hlt : d.cursorLine < d.lineCount := d.lineAt_lt _
  have hcolumn : d.clamp d.cursor - d.lineStart d.cursorLine = c := by
    rw [d.lineStart_eq _ hlt, hclamp]
    exact Nat.add_sub_cancel_left ..
  rw [beforeCursor, hcolumn, hclamp]
  exact Text.take_joinLines d.lines d.cursorLine c hlt hc

lemma newline_notMem_beforeCursor (d : Document) : '\n' ∉ d.beforeCursor :=
  fun h => d.newline_notMem_line _ (List.mem_of_mem_take h)

/-- What stands before the cursor is all that follows the last line feed there. -/
lemma beforeCursor_eq (lines : List (List Char)) {l : List Char} (hlines : ∀ m ∈ lines, '\n' ∉ m)
    (hl : '\n' ∉ l) (h : d.text.take (d.clamp d.cursor) = Text.ended lines ++ l) :
    d.beforeCursor = l := by
  have htake : ∀ m ∈ d.lines.take d.cursorLine, '\n' ∉ m :=
    fun m hm => d.newline_notMem m (List.mem_of_mem_take hm)
  have hleft := Text.splitLines_ended_append htake d.newline_notMem_beforeCursor
  rw [← text_take_cursor, h, Text.splitLines_ended_append hlines hl] at hleft
  have hlast := (List.append_inj' hleft rfl).2
  exact (List.singleton_inj.1 hlast).symm

/-- Text put in at the cursor comes to stand before it. -/
lemma beforeCursor_insert (d : Document) {s : List Char} (hs : '\n' ∉ s) :
    (d.insert d.cursor s).beforeCursor = d.beforeCursor ++ s := by
  have hcursor : (d.insert d.cursor s).cursor = d.cursor + s.length := if_pos d.clamp_cursor_le
  have hclamp : (d.insert d.cursor s).clamp (d.insert d.cursor s).cursor =
      d.clamp d.cursor + s.length := by
    have hlength : (d.insert d.cursor s).length = d.length + s.length := rfl
    rw [hcursor, clamp, clamp, hlength]
    omega
  have htaken : (d.text.take (d.clamp d.cursor)).length = d.clamp d.cursor := by
    rw [List.length_take, length_text, Nat.min_eq_left (d.clamp_le_length _)]
  apply beforeCursor_eq (d.lines.take d.cursorLine)
  · exact fun m hm => d.newline_notMem m (List.mem_of_mem_take hm)
  · rw [List.mem_append, not_or]
    exact ⟨d.newline_notMem_beforeCursor, hs⟩
  · rw [hclamp, text_insert, List.take_left' (by rw [List.length_append, htaken]), text_take_cursor,
      List.append_assoc]

/-- Documents that show the same have the same before the cursor. -/
lemma beforeCursor_congr (hlines : d'.lines = d.lines) (hcursor : d'.cursor = d.cursor) :
    d'.beforeCursor = d.beforeCursor := by
  apply beforeCursor_eq (d.lines.take d.cursorLine)
  · exact fun m hm => d.newline_notMem m (List.mem_of_mem_take hm)
  · exact d.newline_notMem_beforeCursor
  · rw [← text_take_cursor, hcursor, clamp_congr hlines, text, text, hlines]

end Document

/-! Tab stops. -/

/-- Spaces are in the text at the cursor, which has moved behind them. The rest of the text, the
settings and the handlers are as they were. -/
structure Session.Spaced (n : Nat) (s s' : Session) : Prop where
  text : s'.buffer.document.text =
    s.buffer.document.text.take (s.buffer.document.clamp s.buffer.document.cursor) ++
      List.replicate n ' ' ++
      s.buffer.document.text.drop (s.buffer.document.clamp s.buffer.document.cursor)
  cursor : s'.buffer.document.cursor = s.buffer.document.cursor + n
  settings : s'.settings = s.settings
  handler : s'.handler = s.handler
  kept : s'.kept = s.kept

lemma Edit.stopWidth_eq_ok {v : Value} {width : Nat} (hv : v.whole? = some (width : Int))
    (hpos : 0 < width) : stopWidth v = .ok (width : Int) := by
  unfold stopWidth
  split
  · cases hv
  · rw [hv]
    exact if_neg (by omega)

/-- The number of spaces, as it is worked out with numbers that may be negative. -/
lemma Document.spaces_eq (d : Document) {width : Nat} (hpos : 0 < width) :
    (width : Int) - ((d.cursor : Int) - d.lineStart d.cursorLine).fmod width =
      ((width - d.cursorColumn % width : Nat) : Int) := by
  have hle := d.lineStart_cursorLine_le.trans d.clamp_cursor_le
  have hmod := Nat.mod_lt d.cursorColumn hpos
  rw [← Int.ofNat_sub hle, Int.fmod_eq_emod_of_nonneg _ (Int.natCast_nonneg _)]
  rw [cursorColumn] at hmod ⊢
  omega

/-- The spaces are counted from the characters before the cursor, and put in if there is room for as
many. -/
lemma perform_insertTabStop [Memory] {b : Buffer} {v : Value} {width : Nat}
    (hv : v.whole? = some (width : Int)) (hpos : 0 < width) :
    let spaces := width - b.document.cursorColumn % width
    ∃ b', b.Reads b' ∧
      (b.document.cursorLineEnd + spaces ≤ Memory.room → perform b (Edit.insertTabStop v) =
        (.ok ⟨⟩, b'.insert b'.document.cursor (List.replicate spaces ' '))) ∧
      (Memory.room < b.document.cursorLineEnd + spaces → perform b (Edit.insertTabStop v) =
        (.error (if spaces < Margin.countBound then .noMemory else .countTooLarge), b')) := by
  intro spaces
  have hline : b.document.cursorLine < b.document.lineCount := b.document.lineAt_lt _
  obtain ⟨b₁, h₁, hr₁⟩ := Edit.answers_lineAt b b.document.cursor
  have hline₁ : b.document.cursorLine < b₁.document.lineCount := by
    rwa [Document.lineCount, hr₁.lines]
  obtain ⟨b₂, h₂, hr₂⟩ := Edit.answers_lineStart hline₁
  have hr := hr₁.trans hr₂
  have hstart : Text.extent (b₁.document.lines.take b.document.cursorLine) =
      b.document.lineStart b.document.cursorLine := by
    rw [hr₁.lines, b.document.lineStart_eq _ hline]
  have hat : perform b Edit.cursorLine = (.ok b.document.cursorLine, b₁) := by
    rw [Edit.cursorLine, Edit.perform_bind_ok (Edit.perform_document b)]
    exact h₁
  rw [Edit.insertTabStop, Edit.perform_bind_ok (Edit.perform_document b), Edit.perform_bind_ok hat,
    Edit.perform_bind_ok h₂, Edit.stopWidth_eq_ok hv hpos,
    Edit.perform_bind_ok (Edit.perform_lift b₂ _), hstart, b.document.spaces_eq hpos]
  refine ⟨b₂, hr, fun hfits => ?_, fun hwide => ?_⟩
  · have hcheck : Memory.check (b.document.cursorLineEnd + spaces) = .ok () :=
      Memory.check_eq_ok_iff.2 hfits
    rw [Margin.count_natCast (Nat.le_of_add_left_le hfits),
      Edit.perform_bind_ok (Edit.perform_lift b₂ _), ← Document.cursorLineEnd, hcheck,
      Edit.perform_bind_ok (Edit.perform_lift b₂ _), Edit.insert, Edit.perform_modify, hr.cursor]
  · by_cases hroom : spaces ≤ Memory.room
    · have hcheck : Memory.check (b.document.cursorLineEnd + spaces) = .error .noMemory :=
        if_neg (Nat.not_le.2 hwide)
      rw [Margin.count_natCast hroom, Edit.perform_bind_ok (Edit.perform_lift b₂ _),
        ← Document.cursorLineEnd, hcheck, Edit.perform_bind_error (Edit.perform_lift b₂ _),
        if_pos (Nat.lt_of_le_of_lt hroom Memory.room_lt)]
    · rw [Margin.count_of_room_lt (Nat.lt_of_not_le hroom),
        Edit.perform_bind_error (Edit.perform_lift b₂ _)]

lemma fst_perform_edit {α : Type} {w : Workspace} {k : Nat} {s : Session} {default : α}
    {work : Settings → Edit α} (hs : w.sessions[k]? = some s) :
    (w.perform (Act.edit k default work)).1 = (perform s.buffer (work s.settings)).1 := by
  unfold Workspace.perform Act.edit
  rw [ExceptT.run_mk, StateT.run, hs]

/-- A session with other notes on its document. -/
lemma Session.spaced_zero {s : Session} {b : Buffer} (hr : s.buffer.Reads b) :
    s.Spaced 0 { s with buffer := { b with log := [] } } := by
  refine ⟨?_, hr.cursor, rfl, rfl, rfl⟩
  rw [List.replicate_zero, List.append_nil, List.take_append_drop, Document.text, Document.text]
  exact congrArg Text.joinLines hr.lines

/-- A session with other notes on its document, and spaces put in. -/
lemma Session.spaced_insert {s : Session} {b : Buffer} (n : Nat) (hr : s.buffer.Reads b) :
    let b' := b.insert b.document.cursor (List.replicate n ' ')
    s.Spaced n { s with buffer := { b' with log := [] } } ∧
      ∀ w, b'.document.displayColumn w = s.buffer.document.displayColumn w + n := by
  intro b'
  have hdocument : b'.document = b.document.insert b.document.cursor (List.replicate n ' ') :=
    Buffer.document_changed ..
  have htext : b.document.text = s.buffer.document.text := congrArg Text.joinLines hr.lines
  have hspaces : '\n' ∉ List.replicate n ' ' :=
    fun h => absurd (List.eq_of_mem_replicate h) (by decide)
  refine ⟨⟨?_, ?_, rfl, rfl, rfl⟩, fun w => ?_⟩
  · change b'.document.text = _
    rw [hdocument, Document.text_insert, htext, hr.cursor, Document.clamp_congr hr.lines]
  · change b'.document.cursor = _
    rw [hdocument, ← hr.cursor]
    refine (if_pos b.document.clamp_cursor_le).trans ?_
    rw [List.length_replicate]
  · rw [hdocument, Document.displayColumn, Document.beforeCursor_insert _ hspaces,
      displayWidth_append_spaces, Document.beforeCursor_congr hr.lines hr.cursor,
      Document.displayColumn]

/-- The usual indent action of a session. It puts in one space or more, up to the tab width, so that
as many characters stand before the cursor as a multiple of the width says. On the screen the cursor
moves on by as many columns. It comes to stand in the next tab stop if and only if it stood as far
past a stop on the screen as its characters are counted past one, so in any case if there is no tab
before it. Only spaces for which there is no room are not put in, and nothing is done then. -/
theorem indent_tabStop [Memory] {w : Workspace} {k width : Nat} {s : Session}
    (hs : w.sessions[k]? = some s)
    (hhandler : s.handler = .tabStop k) (hwidth : s.settings.tabWidth.whole? = some (width : Int))
    (hpos : 0 < width) :
    let d := s.buffer.document
    let spaces := width - d.cursorColumn % width
    let stops := {stop | width ∣ stop ∧ d.displayColumn width < stop}
    (1 ≤ spaces ∧ spaces ≤ width) ∧
      (d.cursorLineEnd + spaces ≤ Memory.room →
        (w.perform (Act.indent k)).1 = .ok .done ∧
        w.Moves (w.perform (Act.indent k)).2 k fun s s' =>
          let column := s'.buffer.document.displayColumn width
          s.Spaced spaces s' ∧ column = d.displayColumn width + spaces ∧
            (IsLeast stops column ↔ d.displayColumn width % width = d.cursorColumn % width) ∧
            (d.cursor ≤ d.length → '\t' ∉ d.beforeCursor → IsLeast stops column)) ∧
      (Memory.room < d.cursorLineEnd + spaces →
        (w.perform (Act.indent k)).1 =
          .error (if spaces < Margin.countBound then .noMemory else .countTooLarge) ∧
        w.Moves (w.perform (Act.indent k)).2 k (Session.Spaced 0)) := by
  intro d spaces stops
  have hmod : d.cursorColumn % width < width := Nat.mod_lt _ hpos
  have hindent : w.perform (Act.indent k) = w.perform (Act.edit k .done fun s => do
      Edit.insertTabStop s.tabWidth
      pure .done) := by
    rw [Act.indent, Workspace.perform_get_bind, hs, Option.map_some, hhandler]
  obtain ⟨b, hr, hput, htooWide⟩ := perform_insertTabStop (b := s.buffer) hwidth hpos
  rw [hindent, fst_perform_edit hs]
  refine ⟨by omega, fun hfits => ?_, fun hwide => ?_⟩
  · have hb := hput hfits
    rw [Edit.perform_bind_ok hb]
    refine ⟨rfl, Workspace.moves_edit _ _ fun s' hs' => ?_⟩
    cases hs.symm.trans hs'
    rw [Edit.perform_bind_ok hb]
    obtain ⟨hspaced, hdisplay⟩ := Session.spaced_insert spaces hr
    have hstop := isLeast_stop_iff (m := d.cursorColumn) (n := d.displayColumn width) hpos
    rw [← hdisplay width] at hstop
    refine ⟨hspaced, hdisplay width, hstop, fun htext htab => hstop.2 ?_⟩
    rw [Document.displayColumn, displayWidth, foldl_advance _ _ _ htab, Nat.zero_add,
      Document.length_beforeCursor htext]
  · have hb := htooWide hwide
    rw [Edit.perform_bind_error hb]
    refine ⟨rfl, Workspace.moves_edit _ _ fun s' hs' => ?_⟩
    cases hs.symm.trans hs'
    rw [Edit.perform_bind_error hb]
    exact Session.spaced_zero hr

/-- A session at a text, with the cursor behind its first character. -/
def behindFirst (text : String) : Workspace where
  sessions := [{ buffer := .ofText text.toList 1, handler := .tabStop 0 }]

section Ample

attribute [local instance] Memory.ample

theorem indent_tabStop_midWord :
    ((behindFirst "ab").perform (Act.indent 0)).1 = .ok .done ∧
      ∃ s', ((behindFirst "ab").perform (Act.indent 0)).2.sessions[0]? = some s' ∧
        s'.buffer.document.text = "a       b".toList ∧
        IsLeast {stop | 8 ∣ stop ∧ 1 < stop} (s'.buffer.document.displayColumn 8) := by
  have hs : (behindFirst "ab").sessions[0]? =
      some { buffer := .ofText "ab".toList 1, handler := .tabStop 0 } := rfl
  have hwidth : ({} : Settings).tabWidth.whole? = some ((8 : Nat) : Int) := rfl
  obtain ⟨-, hfits, -⟩ := indent_tabStop hs rfl hwidth (by decide)
  obtain ⟨hdone, hmoves⟩ := hfits (by decide)
  refine ⟨hdone, ?_⟩
  have hhere := hmoves.here
  rw [hs] at hhere
  generalize ((behindFirst "ab").perform (Act.indent 0)).2.sessions[0]? = after at hhere
  cases hhere with
  | @some _ s' hspaced =>
    obtain ⟨hspaces, -, -, hstop⟩ := hspaced
    exact ⟨s', rfl, hspaces.text, hstop (by decide) (by decide)⟩

/-- Behind a tab the cursor stands in a tab stop of the screen, and it is not the next one that it
comes to. -/
theorem indent_tabStop_behindTab :
    (∃ s, (behindFirst "\tx").sessions[0]? = some s ∧ s.buffer.document.displayColumn 8 = 8) ∧
      (∃ s', ((behindFirst "\tx").perform (Act.indent 0)).2.sessions[0]? = some s' ∧
        s'.buffer.document.text = "\t       x".toList ∧
        s'.buffer.document.displayColumn 8 = 15) ∧
      ¬ IsLeast {stop | 8 ∣ stop ∧ 8 < stop} 15 := by
  refine ⟨⟨_, rfl, by decide⟩, ⟨_, rfl, by decide, by decide⟩, ?_⟩
  rintro ⟨⟨hdvd, -⟩, -⟩
  exact absurd hdvd (by decide)

end Ample
end SqlMargin
