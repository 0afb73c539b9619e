import SqlMargin.Proofs.Indent.Outline
import SqlMargin.Proofs.Indent.Steadiness

/-! Levels worked out on a buffer. Whichever classifier is used, be it fresh or one that has
answered before, and however the line above is come by, the level of a line is the one its outline
tells. -/
namespace SqlMargin
open Edit (Answers)
open Lexical (lineState scan)
open Outline (lineOf above?)

/-- A buffer with lines `ls` and classifier `k` in service. -/
structure Buffer.Shows (b : Buffer) (k : Nat) (e : Bool) (ls : List (List Char)) : Prop extends
    b.Serves k e where
  lines : b.document.lines = ls

variable {b : Buffer} {k : Nat} {e : Bool} {ls : List (List Char)}

namespace Buffer.Shows

lemma reads {b' : Buffer} (h : b.Shows k e ls) (hr : b.Reads b') : b'.Shows k e ls :=
  ⟨h.toServes.evolves hr.toEvolves, hr.lines.trans h.lines⟩

lemma line_eq (h : b.Shows k e ls) (i : Nat) : b.document.line i = lineOf ls i :=
  congrArg (lineOf · i) h.lines

lemma codeAbove?_eq (h : b.Shows k e ls) (i : Nat) : b.document.codeAbove? i = above? ls i :=
  congrArg (above? · i) h.lines

lemma lineAt (h : b.Shows k e ls) {i : Nat} (hi : i < ls.length) :
    b.document.lineAt (Text.extent (ls.take i) : Nat) = i := by
  have hl := h.lines
  subst hl
  exact b.document.lineAt_extent hi

lemma lineAt_reads {b' : Buffer} (hr : b.Reads b') {p : Int} {i : Nat}
    (h : b.document.lineAt p = i) : b'.document.lineAt p = i :=
  (Document.lineAt_congr hr.lines p).trans h

lemma answers_lineAt {p : Int} {i : Nat} (hp : b.document.lineAt p = i) :
    Answers b (Edit.lineAt p) (.ok i) := by
  have ha := Edit.answers_lineAt b p
  rwa [hp] at ha

lemma answers_lineStart (h : b.Shows k e ls) {i : Nat} (hi : i < ls.length) :
    Answers b (Edit.lineStart i) (.ok (Text.extent (ls.take i))) := by
  have hl := h.lines
  subst hl
  exact Edit.answers_lineStart hi

lemma answers_stateBefore (h : b.Shows k e ls) (p : Int) :
    Answers b (Edit.stateAt k p) (.ok (Outline.stateBefore e ls p)) := by
  have hl := h.lines
  subst hl
  have ha := Edit.answers_stateAt h.toServes p
  rwa [Document.take_clamp] at ha

/-- The state at a column of a line. -/
lemma answers_stateAt (h : b.Shows k e ls) {i c : Nat} (hi : i < ls.length)
    (hc : c ≤ (lineOf ls i).length) :
    Answers b (Edit.stateAt k (Text.extent (ls.take i) + c : Nat))
      (.ok (scan e (lineState e ls i) ((lineOf ls i).take c))) := by
  rw [← Outline.stateBefore_column e ls hi hc]
  exact h.answers_stateBefore _

lemma answers_isLiteral (h : b.Shows k e ls) {i c : Nat} (hi : i < ls.length)
    (hc : c ≤ (lineOf ls i).length) :
    Answers b ((Lexer.classifier k).isLiteral (Text.extent (ls.take i) + c : Nat))
      (.ok (scan e (lineState e ls i) ((lineOf ls i).take c)).isLiteral) :=
  (h.answers_stateAt hi hc).bind fun _ _ => .pure _

lemma answers_depthDelta (h : b.Shows k e ls) (p q : Int) :
    Answers b ((Lexer.classifier k).depthDelta p q)
      (.ok ((Outline.stateBefore e ls q).depth - (Outline.stateBefore e ls p).depth)) := by
  have hl := h.lines
  subst hl
  exact Lexer.answers_depthDelta h.toServes p q

/-- The state after a margin is the one before it. -/
lemma scan_marginOf (e : Bool) (ls : List (List Char)) (i : Nat) :
    scan e (lineState e ls i) (marginOf (lineOf ls i)) = lineState e ls i := by
  have hm := Lexical.scan_margin (Lexical.natural_lineState e ls i) e (marginOf (lineOf ls i)) []
    (List.all_eq_true.1 List.all_takeWhile)
  rwa [List.append_nil, Lexical.scan_nil] at hm

lemma answers_codeText (h : b.Shows k e ls) {p : Int} {i : Nat} (hp : b.document.lineAt p = i) :
    Answers b ((Lexer.classifier k).codeText p) (.ok (Outline.code? e ls i)) := by
  have hi : i < ls.length := by
    rw [← hp, ← h.lines]
    exact b.document.lineAt_lt p
  refine (answers_lineAt hp).bind fun b₁ h₁ => Answers.document.bind fun b₂ h₂ => ?_
  have h₂ := h.reads (h₁.trans h₂)
  unfold Outline.code?
  dsimp only
  rw [(h.reads h₁).line_eq, Text.allBlank_contentOf]
  cases hb : Text.allBlank (lineOf ls i) with
  | true => exact .pure _
  | false =>
    have hmargin : Answers b₂ (Edit.marginEnd i)
        (.ok (Text.extent (ls.take i) + (marginOf (lineOf ls i)).length)) := by
      have hl := h₂.lines
      subst hl
      exact Edit.answers_marginEnd hi
    have htake : (lineOf ls i).take (marginOf (lineOf ls i)).length = marginOf (lineOf ls i) :=
      (List.prefix_iff_eq_take.1 (List.takeWhile_prefix _)).symm
    have hle : (marginOf (lineOf ls i)).length ≤ (lineOf ls i).length :=
      (List.takeWhile_prefix _).length_le
    refine hmargin.bind fun b₃ h₃ => ?_
    refine ((h₂.reads h₃).answers_isLiteral hi hle).bind fun b₄ h₄ => ?_
    rw [htake, scan_marginOf]
    cases (lineState e ls i).isLiteral with
    | true => exact .pure _
    | false => exact .pure _

/-- The keywords of a style, where a classifier reads as the style does. -/
lemma answers_startsWithKeyword {s : Style} (h : b.Shows k s.escapes ls) {p : Int} {i : Nat}
    (hp : b.document.lineAt p = i) :
    Answers b ((Lexer.classifier k).startsWithKeyword s.reading.keyword p)
      (.ok (Outline.hasKeyword s ls i)) := by
  refine (h.answers_codeText hp).bind fun b' _ => ?_
  unfold Outline.hasKeyword
  cases hc : Outline.code? s.escapes ls i with
  | none => exact .pure _
  | some c =>
    obtain ⟨hb, rfl⟩ := Outline.code?_eq_some _ _ hc
    have hm : matchKeyword s.reading.keyword (contentOf (lineOf ls i)) =
        .ok (Outline.leads s.keywords (contentOf (lineOf ls i))) := by
      unfold matchKeyword
      rw [Text.allBlank_contentOf, hb, head?_contentOf]
      rfl
    dsimp only
    rw [hm]
    exact .lift _

lemma answers_startsWithCloser (h : b.Shows k e ls) {i : Nat} (hi : i < ls.length) :
    Answers b ((Lexer.classifier k).startsWithCloser (Text.extent (ls.take i) : Nat))
      (.ok (Outline.hasCloser e ls i)) :=
  (h.answers_codeText (h.lineAt hi)).bind fun _ _ => .pure _

lemma answers_endsWithContinuation (h : b.Shows k e ls) {i : Nat} (hi : i < ls.length) :
    Answers b ((Lexer.classifier k).endsWithContinuation i)
      (.ok ((above? ls i).any (Outline.opens e ls))) := by
  refine Answers.document.bind fun b₁ h₁ => ?_
  have h₁ := h.reads h₁
  cases i with
  | zero => exact .pure _
  | succ i =>
    have hlast : i < b₁.document.lineCount := by
      rw [Document.lineCount, h₁.lines]
      exact Nat.lt_of_succ_lt hi
    have hcheck := Edit.answers_checkLine (n := (i + 1 : Nat) - 1) (by omega) hlast
    rw [if_neg (by omega)]
    refine hcheck.bind fun b₂ h₂ => ?_
    have h₂ := h₁.reads h₂
    rw [h.codeAbove?_eq]
    cases hj : above? ls (i + 1) with
    | none => exact .pure _
    | some j =>
      have hlt := (Outline.above?_spec ls hj).1
      refine (h₂.answers_lineStart (by omega)).bind fun b₃ h₃ => ?_
      rw [h.line_eq]
      change Answers b₃ _ (.ok (Outline.opens e ls j))
      unfold Outline.opens
      cases hk : continuation? (Text.trimRight (lineOf ls j)) with
      | none => exact .pure _
      | some c =>
        have hle := (continuation?_le hk).trans (Text.trimRight_isPrefix _).length_le
        have hstate := (h₂.reads h₃).answers_isLiteral (i := j) (by omega) hle
        rw [Int.natCast_add] at hstate
        exact hstate.bind fun _ _ => .pure _

lemma answers_raised (h : b.Shows k e ls) {i : Nat} (hi : i < ls.length) (delta : Int) :
    Answers b ((Lexer.classifier k).raised i delta)
      (.ok (if delta < 1 ∧ (above? ls i).any (Outline.opens e ls) then delta + 1 else delta)) := by
  unfold Lexer.raised
  by_cases hd : delta < 1
  · rw [if_pos hd]
    refine (h.answers_endsWithContinuation hi).bind fun _ _ => ?_
    simp only [hd, true_and]
    exact .pure _
  · rw [if_neg hd, if_neg fun hc => hd hc.1]
    exact .pure _

lemma answers_lowered (h : b.Shows k e ls) {i : Nat} (hi : i < ls.length) (delta : Int) :
    Answers b ((Lexer.classifier k).lowered (Text.extent (ls.take i)) delta)
      (.ok (if 0 ≤ delta ∧ Outline.hasCloser e ls i then delta - 1 else delta)) := by
  unfold Lexer.lowered
  by_cases hd : 0 ≤ delta
  · rw [if_pos hd]
    refine (h.answers_startsWithCloser hi).bind fun _ _ => ?_
    simp only [hd, true_and]
    exact .pure _
  · rw [if_neg hd, if_neg fun hc => hd hc.1]
    exact .pure _

/-- The level of a line, counted from any position that is given for the line above. -/
theorem answers_levelFrom {s : Style} (h : b.Shows k s.escapes ls) {i : Nat} (hi : i < ls.length)
    (above : Previous Int) {j : Nat} (hj : b.document.lineAt above.start = j) :
    Answers b ((Lexer.classifier k).levelFrom s.reading.keyword above i (Text.extent (ls.take i)))
      (.ok ⟨Outline.deltaFrom s ls above.start j i, above.indent⟩) := by
  unfold Outline.deltaFrom
  rw [← Outline.stateBefore_lineStart s.escapes ls hi]
  refine (h.answers_depthDelta _ _).bind fun b₁ r₁ => ?_
  have h₁ := h.reads r₁
  refine (h₁.answers_startsWithKeyword (lineAt_reads r₁ hj)).bind fun b₂ h₂ => ?_
  have h₂ := h₁.reads h₂
  refine (h₂.answers_startsWithKeyword (h₂.lineAt hi)).bind fun b₃ h₃ => ?_
  have h₃ := h₂.reads h₃
  refine (h₃.answers_raised hi _).bind fun b₄ h₄ => ?_
  exact ((h₃.reads h₄).answers_lowered hi _).bind fun _ _ => .pure _

end Buffer.Shows

/-- A line above line `i` that is given is the one that would be found. -/
def Settled (s : Style) (ls : List (List Char)) (i : Nat) (given : Option (Previous Int)) : Prop :=
  ∀ above, given = some above → ∃ j, above? ls i = some j ∧
    above = ⟨(Text.extent (ls.take j) : Nat), columns s.tabWidth (lineOf ls j)⟩

/-- No lexer is asked for the line above. -/
lemma answers_previousLine (b : Buffer) (s : Style) {i : Nat} (hi : i < b.document.lineCount) :
    Answers b (previousLine s.reading.ruler (Text.extent (b.document.lines.take i) : Nat))
      (.ok ⟨(Text.extent (b.document.lines.take ((above? b.document.lines i).getD 0)) : Nat),
        Outline.indentAbove s b.document.lines i⟩) := by
  have hat := Edit.answers_lineAt b (Text.extent (b.document.lines.take i) : Nat)
  rw [b.document.lineAt_extent hi] at hat
  refine hat.bind fun b₁ h₁ => Answers.document.bind fun b₂ h₂ => ?_
  have habove : b₁.document.codeAbove? i = above? b.document.lines i :=
    congrArg (above? · i) h₁.lines
  have hline : ∀ j, b₁.document.line j = lineOf b.document.lines j := fun j =>
    congrArg (lineOf · j) h₁.lines
  unfold Outline.indentAbove
  rw [habove]
  cases hj : above? b.document.lines i with
  | none => exact .pure _
  | some j =>
    have hlines := (h₁.trans h₂).lines
    have hlt : j < b₂.document.lineCount := by
      rw [Document.lineCount, hlines]
      exact (Outline.above?_spec _ hj).1.trans hi
    have hstart := Edit.answers_lineStart hlt
    rw [hlines] at hstart
    refine hstart.bind fun b₃ _ => ?_
    rw [hline, columnsOf_eq]
    exact (Answers.lift _).bind fun _ _ => .pure _

lemma Buffer.Shows.answers_givenOrAbove (h : b.Shows k e ls) (s : Style) {i : Nat}
    (hi : i < ls.length) {given : Option (Previous Int)} (hg : Settled s ls i given) :
    Answers b (givenOrAbove s.reading.ruler given (Text.extent (ls.take i) : Nat))
      (.ok ⟨(Text.extent (ls.take ((above? ls i).getD 0)) : Nat), Outline.indentAbove s ls i⟩) := by
  cases given with
  | none =>
    have hl := h.lines
    subst hl
    exact answers_previousLine b s hi
  | some above =>
    obtain ⟨j, hj, rfl⟩ := hg above rfl
    unfold Outline.indentAbove
    rw [hj]
    exact .pure _

/-- A lexer that may be given is a classifier in service. -/
def Buffer.Fits (b : Buffer) (e : Bool) (given : Option Lexer) : Prop :=
  ∀ l, given = some l → ∃ k, l = .classifier k ∧ b.Serves k e

lemma Buffer.fits_none (b : Buffer) (e : Bool) : b.Fits e none := fun _ hl => nomatch hl

lemma Buffer.Fits.evolves {b' : Buffer} {given : Option Lexer} (h : b.Fits e given)
    (hb : b.Evolves b') : b'.Fits e given := fun l hl =>
  let ⟨k, hk, hs⟩ := h l hl
  ⟨k, hk, hs.evolves hb⟩

/-- A question to whichever classifier there is. -/
lemma answers_during {α : Type} {given : Option Lexer} {work : Lexer → Edit α}
    {r : Except Fault α} (hs : b.Sound) (hf : b.Fits e given)
    (h : ∀ b' k, b'.Shows k e b.document.lines → Answers b' (work (.classifier k)) r) :
    Answers b (Lexer.during given e work) r := by
  cases given with
  | some l =>
    obtain ⟨k, rfl, hk⟩ := hf l rfl
    exact h b k ⟨hk, rfl⟩
  | none =>
    obtain ⟨b', hp, hr⟩ := h (b.openClassifier e) _ ⟨hs.serves_openClassifier e, rfl⟩
    refine ⟨b'.dropClassifier b.classifiers.length, ?_, hr.dropClassifier hs.below⟩
    rw [Lexer.perform_during_none, hp]

/-- The level of a line, once it is known how the line above is come by. -/
lemma answers_levelAt_of (s : Style) {lexer : Option Lexer} {given : Option (Previous Int)}
    {i : Nat}
    {r : Except Fault (Level Int)} (hs : b.Sound) (hf : b.Fits s.escapes lexer)
    (hi : i < b.document.lineCount)
    (h : ∀ b' k, b'.Shows k s.escapes b.document.lines →
      Answers b' (do
        (Lexer.classifier k).levelFrom s.reading.keyword
          (← givenOrAbove s.reading.ruler given (Text.extent (b.document.lines.take i) : Nat)) i
          (Text.extent (b.document.lines.take i))) r) :
    Answers b (levelAt s.reading lexer given (Text.extent (b.document.lines.take i) : Nat)) r := by
  have hat := Edit.answers_lineAt b (Text.extent (b.document.lines.take i) : Nat)
  rw [b.document.lineAt_extent hi] at hat
  refine hat.bind fun b₁ h₁ => ?_
  have hstart : Answers b₁ (Edit.lineStart i) (.ok (Text.extent (b.document.lines.take i))) := by
    rw [← h₁.lines]
    exact Edit.answers_lineStart (by simpa [Document.lineCount, h₁.lines] using hi)
  refine hstart.bind fun b₂ h₂ => ?_
  have h₂ := h₁.trans h₂
  refine answers_during (h₂.sound hs) (hf.evolves h₂.toEvolves) fun b₃ k h₃ => ?_
  rw [h₂.lines] at h₃
  exact h b₃ k h₃

/-- The level of a line is the one its outline tells. -/
theorem answers_levelAt (s : Style) {lexer : Option Lexer} {given : Option (Previous Int)} {i : Nat}
    (hs : b.Sound) (hf : b.Fits s.escapes lexer) (hi : i < b.document.lineCount)
    (hg : Settled s b.document.lines i given) :
    Answers b (levelAt s.reading lexer given (Text.extent (b.document.lines.take i) : Nat))
      (.ok (Outline.level s b.document.lines i)) := by
  refine answers_levelAt_of s hs hf hi fun b' k h => ?_
  have hj : (above? b.document.lines i).getD 0 < b.document.lines.length :=
    Nat.lt_of_le_of_lt (Outline.getD_above?_le _ i) hi
  refine (h.answers_givenOrAbove s hi hg).bind fun b₁ h₁ => ?_
  have h₁ := h.reads h₁
  rw [Outline.level, ← Outline.deltaFrom_lineStart s _ hj]
  exact h₁.answers_levelFrom hi _ (h₁.lineAt hj)

/-- The level of a line that is counted from whatever is given for the line above. -/
theorem answers_levelAt_some (s : Style) {lexer : Option Lexer} (above : Previous Int) {i : Nat}
    (hs : b.Sound) (hf : b.Fits s.escapes lexer) (hi : i < b.document.lineCount) :
    Answers b
      (levelAt s.reading lexer (some above) (Text.extent (b.document.lines.take i) : Nat))
      (.ok ⟨Outline.deltaFrom s b.document.lines above.start (b.document.lineAt above.start) i,
        above.indent⟩) := by
  refine answers_levelAt_of s hs hf hi fun b' k h => ?_
  refine (Answers.pure above).bind fun b₁ h₁ => ?_
  exact (h.reads h₁).answers_levelFrom hi above
    (Document.lineAt_congr (h.reads h₁).lines above.start)

end SqlMargin
