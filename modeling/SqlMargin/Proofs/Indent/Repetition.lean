import SqlMargin.Files.Indented
import SqlMargin.Proofs.Indent.Contents
import SqlMargin.Proofs.Text.Unindent
import SqlMargin.Proofs.Text.Utf8

/-! The content of a file indented a second time, whole or at one line. The first time leaves what
follows the margins, and no line's level hangs on the margin it has itself, so the second time
changes nothing. -/
namespace SqlMargin
open Edit (perform)
open Outline (lineOf)

variable {s : Style} {p : Path} {t u : List Char} {line : Option Int} {c : Indented} {q : Page}

/-- Indenting a text, or one line of it, comes to a page. -/
inductive Style.Makes [Memory] (s : Style) (t : List Char) : Option Int → Page → Prop
  | pass {rs : List Record} {q : Page} (h : s.placeText t 0 = (.ok rs, q)) : Makes s t none q
  | line {n : Int} {i : Nat} {r : Record} {q : Page}
      (hi : (Document.ofText t 0).checkLine n = .ok i)
      (h : s.placeLine i (Document.ofText t 0).page = (.ok r, q)) : Makes s t (some n) q

lemma Document.lt_of_checkLine {d : Document} {n : Int} {i : Nat} (h : d.checkLine n = .ok i) :
    i < d.lineCount := by
  unfold checkLine at h
  rw [ite_eq_ok_iff] at h
  omega

lemma Document.checkLine_congr {d d' : Document} (h : d.lines.length = d'.lines.length) (n : Int) :
    d.checkLine n = d'.checkLine n := by
  unfold checkLine outside lineCount
  rw [h]

namespace Style

variable [Memory]

/-! What a file's content is indented to is what the page tells. -/

lemma perform_indentBuffer (s : Style) (t : List Char) :
    ∃ b, perform (.ofText t 0) (s.indentBuffer none) = ((s.placeText t 0).1, b) ∧
      b.document.lines = (s.placeText t 0).2.lines := by
  obtain ⟨b, hp, _, hpage⟩ :=
    s.turns_indentBuffer (Buffer.sound_ofText t 0) (Buffer.fits_none _ _) rfl
  exact ⟨b, hp, congrArg Page.lines hpage⟩

lemma perform_indentLine (s : Style) {i : Nat} (hi : i < (Document.ofText t 0).lineCount) :
    ∃ b, perform (.ofText t 0) (s.indentLine none none i) =
        ((s.placeLine i (Document.ofText t 0).page).1, b) ∧
      b.document.lines = (s.placeLine i (Document.ofText t 0).page).2.lines := by
  have hnone : Settled s (Document.ofText t 0).page.lines i none := fun above hab => nomatch hab
  obtain ⟨b, hp, _, hpage⟩ :=
    turns_indentLine (Buffer.sound_ofText t 0) (Buffer.fits_none _ _) rfl hi hnone
  exact ⟨b, hp, congrArg Page.lines hpage⟩

lemma makes_of_indentedText (h : s.indentedText p t line = .ok c) :
    ∃ q, s.Makes t line q ∧ q.lines = Text.splitLines c.after := by
  unfold indentedText at h
  dsimp only at h
  cases line with
  | none =>
    obtain ⟨b, hp, hlines⟩ := s.perform_indentBuffer t
    rcases hplace : s.placeText t 0 with ⟨f | rs, q⟩
    all_goals
      rw [hplace] at hp hlines
      dsimp only at h
      rw [hp] at h
      cases h
    exact ⟨q, .pass hplace, by rw [b.document.splitLines_text, hlines]⟩
  | some n =>
    have hdocument : (Buffer.ofText t 0).document = Document.ofText t 0 := rfl
    dsimp only at h
    rw [hdocument] at h
    rcases hi : (Document.ofText t 0).checkLine n with f | i
    · rw [hi] at h
      cases h
    · obtain ⟨b, hp, hlines⟩ := s.perform_indentLine (Document.lt_of_checkLine hi)
      rw [hi] at h
      rcases hplace : s.placeLine i (Document.ofText t 0).page with ⟨f | r, q⟩
      all_goals
        rw [hplace] at hp hlines
        dsimp only at h
        rw [hp] at h
        cases h
      exact ⟨q, .line hi hplace, by rw [b.document.splitLines_text, hlines]⟩

lemma Makes.indentedText (h : s.Makes t line q) (p : Path) :
    ∃ log, s.indentedText p t line = .ok ⟨t, Text.joinLines q.lines, log⟩ := by
  unfold Style.indentedText
  dsimp only
  cases h with
  | pass hplace =>
    obtain ⟨b, hp, hlines⟩ := s.perform_indentBuffer t
    rw [hplace] at hp hlines
    dsimp only
    rw [hp]
    exact ⟨b.log, by rw [← hlines]; rfl⟩
  | line hi hplace =>
    obtain ⟨b, hp, hlines⟩ := s.perform_indentLine (Document.lt_of_checkLine hi)
    have hdocument : (Buffer.ofText t 0).document = Document.ofText t 0 := rfl
    rw [hplace] at hp hlines
    dsimp only
    rw [hdocument, hi]
    dsimp only
    rw [hp]
    exact ⟨b.log, by rw [← hlines]; rfl⟩

/-! The second time. -/

lemma contents_placeLine (s : Style) (i : Nat) (q : Page) :
    (s.placeLine i q).2.lines.map contentOf = q.lines.map contentOf := by
  rcases s.placeLine_cases i q with ⟨f, _, hl⟩ | ⟨r, m, _, hl⟩
  · rw [hl]
  · rw [hl, contents_place]

lemma Makes.contents (h : s.Makes t line q) :
    q.lines.map contentOf = (Text.splitLines t).map contentOf := by
  cases h with
  | pass hplace =>
    have hkept := s.contents_placeFrom (Text.splitLines t).length 0 (Document.ofText t 0).page
    change (s.placeText t 0).2.lines.map contentOf = _ at hkept
    rwa [hplace] at hkept
  | @line n i r q hi hplace =>
    have hkept := s.contents_placeLine i (Document.ofText t 0).page
    rwa [hplace] at hkept

/-- A line that was placed stays where it is. -/
lemma placeLine_again {i : Nat} {r : Record} {q' : Page} (hi : i < q.lines.length)
    (h : s.placeLine i q = (.ok r, q')) (cursor : Nat) :
    ∃ q'', s.placeLine i ⟨q'.lines, cursor⟩ = (.ok r, q'') ∧ q''.lines = q'.lines := by
  rcases s.placeLine_cases i q with ⟨f, _, hl⟩ | ⟨_, m, hm, hl⟩
  all_goals
    rw [hl] at h
    cases h
  have halike : Page.Alike ⟨(q.place i m).lines, cursor⟩ q i :=
    ⟨take_modify_self _ _ i, contents_place q i m⟩
  have hsame := (s.placeLine_alike halike (by rwa [Page.length_place])).1
  rw [hl] at hsame
  rcases s.placeLine_cases i ⟨(q.place i m).lines, cursor⟩ with ⟨f, _, hl'⟩ | ⟨_, m', hm', hl'⟩
  all_goals
    rw [hl'] at hsame
    cases hsame
  cases hm.symm.trans hm'
  refine ⟨_, hl', modify_margin_self _ i ?_⟩
  have hline := lineOf_modify_self q.lines (fun l => m.chars ++ contentOf l) hi
  change marginOf (lineOf (q.lines.modify i fun l => m.chars ++ contentOf l) i) = _
  rw [hline, m.marginOf_append, marginOf_contentOf, List.append_nil]

/-- A text with the lines of a page that was made of another one comes to a page with these
lines. -/
lemma Makes.again (h : s.Makes t line q) (hu : Text.splitLines u = q.lines) :
    ∃ q', s.Makes u line q' ∧ q'.lines = q.lines := by
  have hcontents := h.contents
  rw [← hu] at hcontents
  cases h with
  | pass hplace =>
    obtain ⟨hout, hlines⟩ := s.placeText_alike hcontents.symm 0 0
    rw [hplace] at hout hlines
    refine ⟨(s.placeText u 0).2, .pass (Prod.ext hout.symm rfl), (hlines _ rfl).symm⟩
  | @line n i r q hi hplace =>
    have hlength : (Text.splitLines u).length = (Text.splitLines t).length := by
      simpa using congrArg List.length hcontents
    obtain ⟨q', hagain, hlines⟩ :=
      placeLine_again (Document.lt_of_checkLine hi) hplace (Document.ofText u 0).cursor
    rw [← hu] at hagain
    exact ⟨q', .line ((Document.checkLine_congr hlength n).trans hi) hagain, hlines⟩

/-- A text that was indented is not changed by indenting it so again, and it has kept what follows
its margins. -/
lemma indentedText_again (h : s.indentedText p t line = .ok c) :
    (∃ log, s.indentedText p c.after line = .ok ⟨c.after, c.after, log⟩) ∧
      flushLeft c.after = flushLeft t := by
  obtain ⟨q, hq, hlines⟩ := makes_of_indentedText h
  obtain ⟨q', hq', hsame⟩ := hq.again hlines.symm
  obtain ⟨log, hlog⟩ := hq'.indentedText p
  rw [hsame, hlines, Text.joinLines_splitLines] at hlog
  exact ⟨⟨log, hlog⟩, by rw [flushLeft_eq, flushLeft_eq, ← hlines, hq.contents]⟩

/-- The same for what the bytes of a file hold. -/
theorem indented_again {bytes : List UInt8} (h : s.indented p bytes line = .ok c) :
    (∃ log, s.indented p (Text.Utf8.encode c.after) line = .ok ⟨c.after, c.after, log⟩) ∧
      ∃ t, Text.Utf8.decode bytes = .ok t ∧ flushLeft t = flushLeft c.after := by
  obtain ⟨t, hdecode, htext⟩ := bind_eq_ok_iff.1 h
  obtain ⟨⟨log, hagain⟩, hkept⟩ := indentedText_again htext
  refine ⟨⟨log, ?_⟩, t, eq_ok_of_mapError_eq_ok hdecode, hkept.symm⟩
  rw [indented, Text.Utf8.decode_encode]
  exact hagain

end Style
end SqlMargin
