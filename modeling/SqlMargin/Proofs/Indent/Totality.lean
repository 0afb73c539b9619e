import SqlMargin.Proofs.Buffer.History
import SqlMargin.Proofs.Indent.Agreement
import SqlMargin.Proofs.Indent.Anchoring
import SqlMargin.Proofs.Indent.Bounds

/-! When indenting fails. It does so for settings without a style, for a line that is not there, and
where there is no room for a line, and for nothing else: no text, however malformed, and no line
above, wherever it is said to start, lead to another fault. What fails leaves the document as it
was, except that a pass keeps the lines it has placed. -/
namespace SqlMargin
open Edit (Turns perform)

/-- What is seen of a document, and who follows it, have stayed. -/
structure Buffer.Unchanged (b b' : Buffer) : Prop where
  text : b'.document.text = b.document.text
  cursor : b'.document.cursor = b.document.cursor
  length : b'.document.length = b.document.length
  listeners : b'.listeners = b.listeners

lemma Buffer.Unchanged.trans {a b c : Buffer} (h : a.Unchanged b) (h' : b.Unchanged c) :
    a.Unchanged c :=
  ⟨h'.text.trans h.text, h'.cursor.trans h.cursor, h'.length.trans h.length,
    h'.listeners.trans h.listeners⟩

lemma Buffer.Unchanged.of_page {b b' : Buffer} (he : b.Evolves b')
    (hp : b'.document.page = b.document.page) : b.Unchanged b' := by
  have hlines : b'.document.lines = b.document.lines := congrArg Page.lines hp
  have hlength := b.document.length_succ
  have hlength' := b'.document.length_succ
  rw [hlines] at hlength'
  exact ⟨congrArg Text.joinLines hlines, congrArg Page.cursor hp, by omega, he.listeners⟩

namespace Style

/-! A classifier that is given answers by its own escapes, so those of the style have no part. -/

variable (s : Style) (l : Lexer) (e : Bool)

lemma indentFrom_escapes [Memory] (n i : Nat) (previous : Option (Previous Int)) :
    ({ s with escapes := e } : Style).indentFrom l n i previous = s.indentFrom l n i previous := by
  induction n generalizing i previous with
  | zero => rfl
  | succ n ih =>
    rw [indentFrom, indentFrom]
    simp only [ih]
    rfl

lemma indentBuffer_escapes [Memory] :
    ({ s with escapes := e } : Style).indentBuffer (some l) = s.indentBuffer (some l) := by
  have hfrom : ∀ n, ({ s with escapes := e } : Style).indentFrom l n 0 none =
      s.indentFrom l n 0 none := fun n => s.indentFrom_escapes l e n 0 none
  unfold indentBuffer Lexer.during
  simp only [hfrom]

end Style

/-- Columns that a line cannot go beyond: those of the line above, which is given or has no more
than a tab for each character, and an offset for each level there can be. -/
def Style.reach (s : Style) (length : Nat) (previous : Option (Previous Int)) : Nat :=
  previous.elim (s.tabWidth * length) (fun above => above.indent.toNat) + s.offset * (length + 1)

lemma Style.newIndent_le (s : Style) {level : Level Int} {indent length : Nat}
    (hindent : level.previousIndent ≤ indent) (hdelta : level.delta ≤ length + 1) :
    s.newIndent level ≤ indent + s.offset * (length + 1) := by
  have hmul : (s.offset : Int) * level.delta ≤ s.offset * (length + 1) :=
    Int.mul_le_mul_of_nonneg_left hdelta (Int.natCast_nonneg _)
  unfold newIndent
  apply Int.toNat_le.2
  push_cast
  omega

section Line

variable {b : Buffer} {s : Style} {lexer : Option Lexer} {i : Nat}

/-- A line has a level, whatever is given for the line above, and it is within reach. -/
lemma exists_level (hf : b.Fits s.escapes lexer) (hi : i < b.document.lineCount)
    (previous : Option (Previous Int)) :
    ∃ level : Level Int, s.newIndent level ≤ s.reach b.document.length previous ∧
      ∀ b' : Buffer, b'.Sound → b.Evolves b' → b'.document.page = b.document.page →
        Turns b' (levelAt s.reading lexer previous (Text.extent (b.document.lines.take i) : Nat))
          (.ok level, b.document.page) := by
  have hlength : (Text.joinLines b.document.lines).length = b.document.length :=
    b.document.length_text
  cases previous with
  | none =>
    have hfirst : (Outline.above? b.document.lines i).getD 0 < b.document.lines.length :=
      Nat.lt_of_le_of_lt (Outline.getD_above?_le _ i) hi
    have hdelta := Outline.deltaFrom_le s hi
      (Text.extent (b.document.lines.take ((Outline.above? b.document.lines i).getD 0)) : Nat)
      ((Outline.above? b.document.lines i).getD 0)
    have hindent := Outline.indentAbove_le s hi
    rw [Outline.deltaFrom_lineStart s _ hfirst] at hdelta
    rw [hlength] at hdelta hindent
    refine ⟨Outline.level s b.document.lines i,
      s.newIndent_le (Int.ofNat_le.2 hindent) hdelta, fun b' hs he hp => ?_⟩
    have hlines : b'.document.lines = b.document.lines := congrArg Page.lines hp
    have hnone : Settled s b'.document.lines i none := fun _ h => nomatch h
    have hlt : i < b'.document.lineCount := by rwa [Document.lineCount, hlines]
    have hlevel := (answers_levelAt s hs (hf.evolves he) hlt hnone).turns
    rwa [hlines, hp] at hlevel
  | some above =>
    have hdelta := Outline.deltaFrom_le s hi above.start (b.document.lineAt above.start)
    rw [hlength] at hdelta
    refine ⟨⟨_, above.indent⟩, s.newIndent_le (Int.self_le_toNat _) hdelta, fun b' hs he hp => ?_⟩
    have hlines : b'.document.lines = b.document.lines := congrArg Page.lines hp
    have hlt : i < b'.document.lineCount := by rwa [Document.lineCount, hlines]
    have hlevel := (answers_levelAt_some s above hs (hf.evolves he) hlt).turns
    rwa [hlines, hp, Document.lineAt_congr hlines] at hlevel

/-- A line that is placed takes the text no further than it went, and its margin. -/
lemma Document.lengthTo_page_le (d : Document) (hi : i < d.lineCount) (m : Margin) :
    d.page.lengthTo i m ≤ d.length + m.chars.length := by
  have hlength := d.length_eq i hi
  have hcontent : (contentOf (d.line i)).length ≤ (d.line i).length :=
    (List.dropWhile_suffix _).length_le
  change Text.extent (d.lines.take i) + m.chars.length + (contentOf (d.line i)).length ≤ _
  omega

/-- One line: it is placed, or there is no room for it and the document is as before. -/
theorem Style.indentLine_total [Memory] (hs : b.Sound) (hf : b.Fits s.escapes lexer)
    (hi : i < b.document.lineCount) (previous : Option (Previous Int)) :
    ∃ outcome after, perform b (s.indentLine lexer previous i) = (outcome, after) ∧
      ((∃ r, outcome = .ok r) ∨ (∃ f, f.TooLarge ∧ outcome = .error f) ∧ b.Unchanged after ∧
        Memory.room < b.document.length + s.reach b.document.length previous) := by
  obtain ⟨level, hreach, hlevel⟩ := exists_level hf hi previous
  obtain ⟨after, hp, he, hpage⟩ := Style.turns_indentLine_at (b := b) rfl hi fun b' he hp =>
    hlevel b' (he.sound hs) he hp
  refine ⟨_, after, hp, ?_⟩
  rcases s.placeAt_cases level i b.document.page with ⟨f, hf, hroom, hplace⟩ | ⟨m, _, _, hplace⟩
  · rw [hplace] at hpage ⊢
    have hlength := b.document.lengthTo_page_le hi (s.render (s.newIndent level))
    have hwide := s.length_render_le (s.newIndent level)
    exact .inr ⟨⟨f, hf, rfl⟩, .of_page he hpage, by omega⟩
  · rw [hplace]
    exact .inl ⟨_, rfl⟩

/-- A pass: it tells of every line, or it fails where there is no room for one. -/
theorem Style.indentBuffer_total [Memory] (hs : b.Sound) (hf : b.Fits s.escapes lexer) :
    ∃ outcome after, perform b (s.indentBuffer lexer) = (outcome, after) ∧
      after.listeners = b.listeners ∧
      ((∃ rs, outcome = .ok rs) ∨ (∃ f, f.TooLarge ∧ outcome = .error f) ∧ Memory.room <
        b.document.lineCount * (s.offset * b.document.length) + b.document.length) := by
  obtain ⟨after, hp, he, _⟩ := Style.turns_indentBuffer hs hf rfl
  have hlaid : b.document.page.LaidTo s b.document.lines 0 :=
    ⟨rfl, (Outline.contents_layout s _).symm⟩
  refine ⟨_, after, hp, he.listeners, ?_⟩
  have hout := (Style.placeFrom_layout b.document.lines.length hlaid (Nat.zero_add _)).1
  change (∃ rs, (s.placeFrom b.document.lines.length 0 b.document.page).1 = .ok rs) ∨
    (∃ f, f.TooLarge ∧ (s.placeFrom b.document.lines.length 0 b.document.page).1 = .error f) ∧ _
  rw [hout]
  cases hfit : Outline.allFit s b.document.lines 0 b.document.lines.length with
  | ok u => exact .inl ⟨_, rfl⟩
  | error f =>
    refine .inr ⟨⟨f, Outline.tooLarge_of_allFit s _ hfit, rfl⟩, ?_⟩
    by_contra hroom
    rw [Outline.allFit_of_le b.document.length_succ (Nat.le_of_not_lt hroom)] at hfit
    cases hfit

/-- Any classifier that serves will do: the same is done under a style that reads as it does. -/
lemma Buffer.Fits.exists_style [Memory] {e : Bool} (hf : b.Fits e lexer) (s : Style) :
    ∃ s' : Style, b.Fits s'.escapes lexer ∧ s'.offset = s.offset ∧ s'.reach = s.reach ∧
      s'.indentLine lexer = s.indentLine lexer ∧ s'.indentBuffer lexer = s.indentBuffer lexer := by
  cases lexer with
  | none => exact ⟨s, b.fits_none _, rfl, rfl, rfl, rfl⟩
  | some l => exact ⟨{ s with escapes := e }, hf, rfl, rfl, rfl, s.indentBuffer_escapes l e⟩

end Line

lemma perform_lineOrCursor_outside {b : Buffer} {n : Int}
    (h : ¬ (0 ≤ n ∧ n < b.document.lineCount)) :
    perform b (Edit.lineOrCursor (some n)) =
      (.error (b.document.outside n), b) := by
  change perform b (do (← Edit.document).checkLine n) = _
  rw [Edit.perform_bind_ok (Edit.perform_document b), Edit.perform_lift, Document.checkLine, if_neg h]

/-- A line that is given and there, or that of the cursor, is meant. -/
lemma Document.exists_means {d : Document} {line : Option Int}
    (h : ∀ n, line = some n → 0 ≤ n ∧ n < d.lineCount) : ∃ i, d.Means line i := by
  cases line with
  | none => exact ⟨d.cursorLine, d.lineAt_lt _, .inr ⟨rfl, rfl⟩⟩
  | some n =>
    have hn := h n rfl
    exact ⟨n.toNat, by omega, .inl (congrArg some (Int.toNat_of_nonneg hn.1).symm)⟩

section Settings

variable {b : Buffer} {settings : Settings}

/-- Settings are checked before anything else is done. -/
lemma perform_style_error {α : Type} {p : Settings.Problem} (h : settings.check = .error p)
    (next : Style → Edit α) :
    perform b (do next (← (settings.style : Except Fault Style))) = (.error (.settings p), b) := by
  unfold Settings.style
  rw [h]
  rfl

lemma perform_style_ok {α : Type} {s : Style} (h : settings.check = .ok s)
    (next : Style → Edit α) :
    perform b (do next (← (settings.style : Except Fault Style))) = perform b (next s) := by
  unfold Settings.style
  rw [h]
  rfl

end Settings

/-- In a buffer with any history, with a classifier that was opened and not closed or without one,
and with any line above, be it a line or not: settings without a style are refused before anything
is done. With a style, a single line is refused if it is not there, and is placed otherwise; a pass
is carried through. The one fault left is that there is no room for a line, which takes columns or
an offset out of all proportion to the text. When a single line fails the document is as it was, and
so are the listeners, also when a pass fails. -/
theorem indent_total [Memory] (t : List Char) (cursor : Int) (calls : List Buffer.Call)
    (settings : Settings) (e : Bool) (lexer : Option Lexer)
    (hl : (Buffer.ofText t cursor).Lends calls e lexer) (previous : Option (Previous Int))
    (line : Option Int) :
    let b := (Buffer.ofText t cursor).after calls
    let single := perform b (indentLine settings lexer previous line)
    let pass := perform b (indentBuffer settings lexer)
    (∀ p, settings.check = .error p →
      single = (.error (.settings p), b) ∧ pass = (.error (.settings p), b)) ∧
    ∀ s, settings.check = .ok s →
      (∀ n, line = some n → ¬ (0 ≤ n ∧ n < b.document.lineCount) →
        single = (.error (b.document.outside n), b)) ∧
      ((∀ n, line = some n → 0 ≤ n ∧ n < b.document.lineCount) →
        (∃ r, single.1 = .ok r) ∨ (∃ f, f.TooLarge ∧ single.1 = .error f) ∧
          b.Unchanged single.2 ∧
          Memory.room < b.document.length + s.reach b.document.length previous) ∧
      pass.2.listeners = b.listeners ∧
      ((∃ rs, pass.1 = .ok rs) ∨ (∃ f, f.TooLarge ∧ pass.1 = .error f) ∧ Memory.room <
        b.document.lineCount * (s.offset * b.document.length) + b.document.length) := by
  intro b single pass
  have hstart := Buffer.sound_ofText t cursor
  have hb : b.Sound := (Buffer.carries_after hstart calls).1
  have hf : b.Fits e lexer := hl.fits hstart
  refine ⟨fun p hp => ⟨perform_style_error hp _, perform_style_error hp _⟩, fun s hs => ?_⟩
  obtain ⟨s', hf', hoffset, hreach, hline, hpass⟩ := hf.exists_style s
  have hsingle : single = perform b (do s.indentLine lexer previous (← Edit.lineOrCursor line)) :=
    perform_style_ok hs _
  have hall : pass = perform b (s.indentBuffer lexer) := perform_style_ok hs _
  refine ⟨fun n hn hout => ?_, fun hin => ?_, ?_⟩
  · subst hn
    rw [hsingle, Edit.perform_bind_error (perform_lineOrCursor_outside hout)]
  · obtain ⟨i, hmeans⟩ := Document.exists_means hin
    obtain ⟨b₁, hp, hr⟩ := answers_lineOrCursor hmeans
    have hsame : b.Unchanged b₁ :=
      .of_page hr.toEvolves (congrArg₂ Page.mk hr.lines hr.cursor)
    have hlt : i < b₁.document.lineCount := by
      rw [Document.lineCount, hr.lines]
      exact hmeans.1
    obtain ⟨outcome, after, hp', hcases⟩ :=
      Style.indentLine_total (hr.sound hb) (hf'.evolves hr.toEvolves) hlt previous
    rw [hsingle, Edit.perform_bind_ok hp, ← hline, hp']
    rcases hcases with hok | ⟨hfault, hstay, hwide⟩
    · exact .inl hok
    · rw [hsame.length, hreach] at hwide
      exact .inr ⟨hfault, hsame.trans hstay, hwide⟩
  · rw [← hpass] at hall
    obtain ⟨outcome, after, hp, hlisteners, hcases⟩ := Style.indentBuffer_total hb hf'
    rw [hall, hp, ← hoffset]
    exact ⟨hlisteners, hcases⟩

section Ample

attribute [local instance] Memory.ample

/-- A literal that does not end, a lone backslash, a classifier that reads without escapes, and a
line above that is said to start past the end of the text. -/
theorem indent_total_malformed :
    let b := (Buffer.ofText "a (\n\x27b\\".toList 0).after
      [.openClassifier false, .flushClassifier 0 1]
    (∃ r, (perform b (indentLine {} (some (.classifier 0)) (some ⟨99, -5⟩) (some 1))).1 = .ok r) ∧
      ∃ rs, (perform b (indentBuffer {} (some (.classifier 0)))).1 = .ok rs := by
  intro b
  have hlends : (Buffer.ofText "a (\n\x27b\\".toList 0).Lends
      [.openClassifier false, .flushClassifier 0 1] false (some (.classifier 0)) := fun l hl =>
    ⟨0, (Option.some.inj hl).symm, [], [.flushClassifier 0 1], rfl, rfl, by simp⟩
  obtain ⟨_, hstyle⟩ := indent_total "a (\n\x27b\\".toList 0 _ {} false _ hlends
    (some ⟨99, -5⟩) (some 1)
  obtain ⟨_, hline, _, hpass⟩ := hstyle _ rfl
  constructor
  · refine (hline fun n hn => ?_).resolve_right fun h => absurd h.2.2 (by decide +kernel)
    rw [← Option.some.inj hn]
    decide +kernel
  · exact hpass.resolve_right fun h => absurd h.2 (by decide +kernel)

/-- An offset as large as a count of characters: the settings have a style, and the pass fails at
the second line after it has placed the first one. -/
theorem indentBuffer_fails_midway :
    let settings : Settings := { indentOffset := .int 9223372036854775808 }
    let b := Buffer.ofText "  a (\nb".toList 0
    let pass := perform b (indentBuffer settings none)
    (∃ s, settings.check = .ok s) ∧ pass.1 = .error .countTooLarge ∧
      b.document.text = "  a (\nb".toList ∧ pass.2.document.text = "a (\nb".toList := by
  refine ⟨⟨_, rfl⟩, ?_, ?_, ?_⟩
  · decide +kernel
  · decide +kernel
  · decide +kernel

end Ample
end SqlMargin
