import SqlMargin.Proofs.Indent.Pass
import SqlMargin.Proofs.Outcome

/-! Old margins have no part in a pass: texts whose lines differ in their margins only are indented
alike, so a text that was indented once is not changed by indenting it again. -/
namespace SqlMargin
open Edit (perform)
open Outline (lineOf above?)

/-- Two pages with the same lines above line `i`, and the same contents of all lines. -/
structure Page.Alike (p q : Page) (i : Nat) : Prop where
  above : p.lines.take i = q.lines.take i
  contents : p.lines.map contentOf = q.lines.map contentOf

variable {p q : Page} {i : Nat}

@[simp] lemma contents_place (p : Page) (i : Nat) (m : Margin) :
    (p.place i m).lines.map contentOf = p.lines.map contentOf := by
  apply List.ext_getElem?
  intro j
  simp only [Page.place, List.getElem?_map, List.getElem?_modify]
  split
  · cases p.lines[j]? with
    | none => rfl
    | some l => simp [m.contentOf_append]
  · simp

lemma take_succ_place (hi : i < p.lines.length) (m : Margin) :
    (p.place i m).lines.take (i + 1) =
      p.lines.take i ++ [m.chars ++ contentOf (lineOf p.lines i)] := by
  have hi' : i < (p.lines.modify i fun l => m.chars ++ contentOf l).length := by
    rwa [List.length_modify]
  have hline := lineOf_modify_self p.lines (fun l => m.chars ++ contentOf l) hi
  unfold lineOf at hline
  rw [List.getElem?_eq_getElem hi', Option.getD_some] at hline
  change (p.lines.modify i fun l => m.chars ++ contentOf l).take (i + 1) = _
  rw [List.take_add_one, take_modify_self, List.getElem?_eq_getElem hi', hline]
  rfl

namespace Page.Alike

lemma length_eq (h : p.Alike q i) : p.lines.length = q.lines.length := by
  simpa using congrArg List.length h.contents

lemma contentOf_eq (h : p.Alike q i) (j : Nat) :
    contentOf (lineOf p.lines j) = contentOf (lineOf q.lines j) := by
  rw [← Outline.lineOf_contents, h.contents, Outline.lineOf_contents]

lemma allBlank_eq (h : p.Alike q i) (j : Nat) :
    Text.allBlank (lineOf p.lines j) = Text.allBlank (lineOf q.lines j) := by
  rw [← Text.allBlank_contentOf, h.contentOf_eq, Text.allBlank_contentOf]

/-- The margin of line `i` itself has no part in its level. -/
lemma level_eq (h : p.Alike q i) (s : Style) :
    Outline.level s p.lines i = Outline.level s q.lines i := by
  have habove := Outline.above?_congr h.above
  have hdelta : ∀ j, Outline.delta s p.lines j i = Outline.delta s q.lines j i := fun j => by
    rw [← Outline.delta_contents, h.contents, Outline.delta_contents]
  have hindent : Outline.indentAbove s p.lines i = Outline.indentAbove s q.lines i := by
    unfold Outline.indentAbove
    rw [← habove]
    cases hj : above? p.lines i with
    | none => rfl
    | some j =>
      exact congrArg (columns s.tabWidth)
        (Outline.lineOf_congr h.above (Outline.above?_spec _ hj).1)
  unfold Outline.level
  rw [habove, hdelta, hindent]

/-- Placing line `i` makes it alike as well. -/
lemma place (h : p.Alike q i) (hi : i < p.lines.length) (m : Margin) :
    (p.place i m).Alike (q.place i m) (i + 1) := by
  refine ⟨?_, by rw [contents_place, contents_place, h.contents]⟩
  rw [take_succ_place hi, take_succ_place (h.length_eq ▸ hi), h.above, h.contentOf_eq]

/-- Line `i` takes the text as far in both. -/
lemma lengthTo_eq (h : p.Alike q i) (m : Margin) : p.lengthTo i m = q.lengthTo i m := by
  unfold Page.lengthTo
  rw [h.above, h.contentOf_eq]

end Page.Alike

section Memory

variable [Memory]

namespace Page.Alike

lemma write (h : p.Alike q i) (hi : i < p.lines.length) (m : Margin) :
    (p.write i m).1 = (q.write i m).1 ∧
      ∀ u, (p.write i m).1 = .ok u → (p.write i m).2.Alike (q.write i m).2 (i + 1) := by
  unfold Page.write
  rw [← h.lengthTo_eq]
  cases Memory.check (p.lengthTo i m) with
  | error f => exact ⟨rfl, fun u hu => nomatch hu⟩
  | ok u => exact ⟨rfl, fun _ _ => h.place hi m⟩

end Page.Alike

namespace Style

/-- Placing line `i` of pages that are alike: the same outcome, and pages alike up to the next
line. -/
lemma placeLine_alike (s : Style) (h : p.Alike q i) (hi : i < p.lines.length) :
    (s.placeLine i p).1 = (s.placeLine i q).1 ∧
      ∀ r, (s.placeLine i p).1 = .ok r →
        (s.placeLine i p).2.Alike (s.placeLine i q).2 (i + 1) := by
  unfold placeLine placeAt
  rw [← h.level_eq s]
  cases s.margin (s.newIndent (Outline.level s p.lines i)) with
  | error f => exact ⟨rfl, fun r hr => nomatch hr⟩
  | ok m =>
    obtain ⟨hout, halike⟩ := h.write hi m
    refine ⟨congrArg (Except.map _) hout, fun r hr => ?_⟩
    obtain ⟨u, hu, _⟩ := exists_of_map_eq_ok hr
    exact halike u hu

/-- So it is when the pass goes over line `i`. -/
lemma placeNext_alike (s : Style) (h : p.Alike q i) (hi : i < p.lines.length) :
    (s.placeNext i p).1 = (s.placeNext i q).1 ∧
      ∀ rs, (s.placeNext i p).1 = .ok rs →
        (s.placeNext i p).2.Alike (s.placeNext i q).2 (i + 1) := by
  unfold placeNext
  rw [← h.allBlank_eq]
  split
  · obtain ⟨hout, halike⟩ := h.write hi .empty
    refine ⟨congrArg (Except.map _) hout, fun rs hr => ?_⟩
    obtain ⟨u, hu, _⟩ := exists_of_map_eq_ok hr
    exact halike u hu
  · obtain ⟨hout, halike⟩ := s.placeLine_alike h hi
    refine ⟨congrArg (Except.map _) hout, fun rs hr => ?_⟩
    obtain ⟨r, hr, _⟩ := exists_of_map_eq_ok hr
    exact halike r hr

lemma length_placeNext (s : Style) (i : Nat) (p : Page) :
    (s.placeNext i p).2.lines.length = p.lines.length := by
  rcases s.placeNext_cases i p with ⟨f, _, hl⟩ | ⟨rs, m, hl⟩
  · rw [hl]
  · rw [hl, Page.length_place]

/-- The pass over two pages that are alike: the same outcome and, if it succeeds, the same lines. -/
theorem placeFrom_alike (s : Style) (n : Nat) (h : p.Alike q i) (hn : i + n = p.lines.length) :
    (s.placeFrom n i p).1 = (s.placeFrom n i q).1 ∧
      ∀ rs, (s.placeFrom n i p).1 = .ok rs →
        (s.placeFrom n i p).2.lines = (s.placeFrom n i q).2.lines := by
  -- The part of the pages that is equal grows by one line a step, until it is all of them.
  induction n generalizing i p q with
  | zero =>
    refine ⟨rfl, fun _ _ => ?_⟩
    have hp := h.above
    have hlen := h.length_eq
    rwa [List.take_of_length_le (by omega), List.take_of_length_le (by omega)] at hp
  | succ n ih =>
    have hi : i < p.lines.length := by omega
    obtain ⟨hout, halike⟩ := s.placeNext_alike h hi
    have hlen := s.length_placeNext i p
    rw [placeFrom, placeFrom]
    generalize s.placeNext i p = a at *
    generalize s.placeNext i q = c at *
    obtain ⟨x, p'⟩ := a
    obtain ⟨y, q'⟩ := c
    dsimp only at hout halike hlen
    subst hout
    cases x with
    | error f =>
      refine ⟨rfl, fun rs hr => ?_⟩
      cases hr
    | ok r =>
      obtain ⟨hrest, hlines⟩ := ih (halike r rfl) (by omega)
      refine ⟨congrArg (Except.map _) hrest, fun rs hr => ?_⟩
      obtain ⟨rest, hok, _⟩ := exists_of_map_eq_ok hr
      exact hlines rest hok

/-- A pass keeps what follows the margins. -/
lemma contents_placeFrom (s : Style) (n i : Nat) (p : Page) :
    (s.placeFrom n i p).2.lines.map contentOf = p.lines.map contentOf := by
  induction n generalizing i p with
  | zero => rfl
  | succ n ih =>
    rw [placeFrom]
    rcases s.placeNext_cases i p with ⟨f, _, hl⟩ | ⟨rs, m, hl⟩
    · rw [hl]
    · rw [hl]
      dsimp only
      rw [ih, contents_place]

/-- A pass fails only where there is no room for a line. -/
lemma tooLarge_of_placeFrom {s : Style} {n : Nat} {f : Fault}
    (h : (s.placeFrom n i p).1 = .error f) : f.TooLarge := by
  induction n generalizing i p with
  | zero => cases h
  | succ n ih =>
    rw [placeFrom] at h
    rcases s.placeNext_cases i p with ⟨g, hg, hl⟩ | ⟨rs, m, hl⟩
    · rw [hl] at h
      cases h
      exact hg
    · rw [hl] at h
      exact ih (eq_error_of_map_eq_error h)

end Style

/-- A whole text placed line by line, with a cursor somewhere in it. -/
def Style.placeText (s : Style) (t : List Char) (c : Int) : Except Fault (List Record) × Page :=
  s.placeFrom (Text.splitLines t).length 0 (Document.ofText t c).page

lemma Style.placeText_alike (s : Style) {t u : List Char}
    (h : (Text.splitLines t).map contentOf = (Text.splitLines u).map contentOf) (c d : Int) :
    (s.placeText t c).1 = (s.placeText u d).1 ∧
      ∀ rs, (s.placeText t c).1 = .ok rs →
        (s.placeText t c).2.lines = (s.placeText u d).2.lines := by
  have hlen : (Text.splitLines t).length = (Text.splitLines u).length := by
    simpa using congrArg List.length h
  have halike : (Document.ofText t c).page.Alike (Document.ofText u d).page 0 := ⟨rfl, h⟩
  unfold Style.placeText
  rw [← hlen]
  exact s.placeFrom_alike _ halike (Nat.zero_add _)

section Text

variable {settings : Settings} {s : Style} (hs : settings.style = .ok s)

include hs

lemma perform_indentBuffer_ofText (t : List Char) (c : Int) :
    ∃ b, perform (.ofText t c) (indentBuffer settings none) = ((s.placeText t c).1, b) ∧
      b.document.lines = (s.placeText t c).2.lines := by
  obtain ⟨b, hp, _, hpage⟩ :=
    turns_indentBuffer hs (Buffer.sound_ofText t c) (Buffer.fits_none _ _) rfl
  exact ⟨b, hp, congrArg Page.lines hpage⟩

lemma indentText_eq (t : List Char) :
    indentText settings t =
      (s.placeText t 0).1.map fun _ => Text.joinLines (s.placeText t 0).2.lines := by
  obtain ⟨b, hp, hlines⟩ := perform_indentBuffer_ofText hs t 0
  unfold indentText
  rw [hp, ← hlines]
  rfl

lemma indentText_congr {t u : List Char}
    (h : (Text.splitLines t).map contentOf = (Text.splitLines u).map contentOf) :
    indentText settings t = indentText settings u := by
  obtain ⟨hout, hlines⟩ := s.placeText_alike h 0 0
  rw [indentText_eq hs, indentText_eq hs, ← hout]
  cases ho : (s.placeText t 0).1 with
  | error f => rfl
  | ok rs => rw [hlines rs ho]

/-- What a pass makes of a text has the contents of its lines. -/
lemma contents_indentText {t u : List Char} (h : indentText settings t = .ok u) :
    (Text.splitLines u).map contentOf = (Text.splitLines t).map contentOf := by
  obtain ⟨b, hp, hlines⟩ := perform_indentBuffer_ofText hs t 0
  unfold indentText at h
  rw [hp] at h
  obtain ⟨_, _, rfl⟩ := exists_of_map_eq_ok h
  rw [Document.splitLines_text, hlines, Style.placeText, Style.contents_placeFrom]
  rfl

end Text

/-- For settings that have a style, texts whose lines are equal but for their margins are indented
to the same text, with the same records, and indenting a text again changes nothing. Indenting fails
only where there is no room for a line. -/
theorem indentText_of_contents (settings : Settings) (s : Style) (hs : settings.style = .ok s) :
    (∀ t u : List Char, (Text.splitLines t).map contentOf = (Text.splitLines u).map contentOf →
      indentText settings t = indentText settings u ∧
        ∀ c d : Int, (perform (.ofText t c) (indentBuffer settings none)).1 =
          (perform (.ofText u d) (indentBuffer settings none)).1) ∧
      ∀ t : List Char, (indentText settings t >>= indentText settings) = indentText settings t ∧
        ∀ f, indentText settings t = .error f → f.TooLarge := by
  refine ⟨fun t u h => ⟨indentText_congr hs h, fun c d => ?_⟩, fun t => ⟨?_, fun f hf => ?_⟩⟩
  · obtain ⟨b, hb, _⟩ := perform_indentBuffer_ofText hs t c
    obtain ⟨b', hb', _⟩ := perform_indentBuffer_ofText hs u d
    rw [hb, hb']
    exact (s.placeText_alike h c d).1
  · cases ht : indentText settings t with
    | error f => rfl
    | ok u =>
      change indentText settings u = _
      rw [indentText_congr hs (contents_indentText hs ht), ht]
  · rw [indentText_eq hs] at hf
    exact Style.tooLarge_of_placeFrom (eq_error_of_map_eq_error hf)

end Memory

section Ample

attribute [local instance] Memory.ample

/-- The default settings, and two texts that differ in their margins. -/
theorem indentText_default :
    indentText {} "a (\n  b".toList = indentText {} "\ta (\n b".toList :=
  ((indentText_of_contents {} _ rfl).1 _ _ (by decide)).1

end Ample
end SqlMargin
