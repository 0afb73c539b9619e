import SqlMargin.Proofs.Indent.Contents

/-! Layouts: the pass in closed form. Where a line goes follows from its outline and from where the
line above went, so the records of a pass and the lines it leaves can be told without running it. -/
namespace SqlMargin
open Edit (perform)

namespace Outline

/-- Columns at which a pass puts line `i`: those of the line above, and an offset for each level. -/
def placed (s : Style) (ls : List (List Char)) (i : Nat) : Nat :=
  match _h : above? ls i with
  | none => s.newIndent ⟨delta s ls 0 i, 0⟩
  | some j => s.newIndent ⟨delta s ls j i, placed s ls j⟩
termination_by i
decreasing_by exact (above?_spec ls _h).1

/-- Columns at which a pass puts the line above line `i`. -/
def placedAbove (s : Style) (ls : List (List Char)) (i : Nat) : Nat :=
  (above? ls i).elim 0 (placed s ls)

/-- The level at which a pass finds line `i`. -/
def placedLevel (s : Style) (ls : List (List Char)) (i : Nat) : Level Int :=
  ⟨delta s ls ((above? ls i).getD 0) i, placedAbove s ls i⟩

/-- Blank lines are emptied, unless they are to be indented. -/
def emptied (s : Style) (ls : List (List Char)) (i : Nat) : Bool :=
  Text.allBlank (lineOf ls i) && !s.blankLines

/-- What a pass tells of line `i`. -/
def record (s : Style) (ls : List (List Char)) (i : Nat) : Record :=
  ⟨i, (placedLevel s ls i).delta, placedAbove s ls i, placed s ls i⟩

/-- The margin that a pass gives line `i`. -/
def marginAt (s : Style) (ls : List (List Char)) (i : Nat) : Margin :=
  if emptied s ls i then .empty else s.render (placed s ls i)

/-- The lines that a pass leaves. -/
def layout (s : Style) (ls : List (List Char)) : List (List Char) :=
  ls.mapIdx fun i l => (marginAt s ls i).chars ++ contentOf l

/-- What a pass tells of `n` lines from line `i` on; nothing of those it empties. -/
def records (s : Style) (ls : List (List Char)) (i n : Nat) : List Record :=
  ((List.range' i n).filter fun j => !emptied s ls j).map (record s ls)

/-- Is there room for line `i` where a pass puts it? -/
def fits [Memory] (s : Style) (ls : List (List Char)) (i : Nat) : Except Fault Unit :=
  (if emptied s ls i then .ok .empty else s.margin (placed s ls i)) >>= fun m =>
    Memory.check (Page.lengthTo ⟨layout s ls, 0⟩ i m)

/-- Is there room for `n` lines from line `i` on? -/
def allFit [Memory] (s : Style) (ls : List (List Char)) (i n : Nat) : Except Fault Unit :=
  (List.range' i n).forM (fits s ls)

variable (s : Style) (ls : List (List Char))

lemma placed_eq (i : Nat) : placed s ls i = s.newIndent (placedLevel s ls i) := by
  rw [placed, placedLevel, placedAbove]
  split
  · next h => simp [h]
  · next j h => simp [h]

lemma marginAt_of_emptied {i : Nat} (h : emptied s ls i = true) :
    marginAt s ls i = .empty := if_pos h

lemma marginAt_of_not_emptied {i : Nat} (h : emptied s ls i = false) :
    marginAt s ls i = s.render (placed s ls i) := if_neg (by simp [h])

lemma emptied_of_not_blank {i : Nat} (h : Text.allBlank (lineOf ls i) = false) :
    emptied s ls i = false := by
  rw [emptied, h, Bool.false_and]

@[simp] lemma length_layout : (layout s ls).length = ls.length := List.length_mapIdx

lemma lineOf_layout {i : Nat} (hi : i < ls.length) :
    lineOf (layout s ls) i = (marginAt s ls i).chars ++ contentOf (lineOf ls i) := by
  simp [lineOf, layout, List.getElem?_eq_getElem hi]

@[simp] lemma contents_layout : (layout s ls).map contentOf = ls.map contentOf := by
  apply List.ext_getElem?
  intro i
  rw [List.getElem?_map, List.getElem?_map, layout, List.getElem?_mapIdx]
  cases ls[i]? with
  | none => rfl
  | some l => simp [Margin.contentOf_append]

lemma take_succ_layout {i : Nat} (hi : i < ls.length) :
    (layout s ls).take (i + 1) =
      (layout s ls).take i ++ [(marginAt s ls i).chars ++ contentOf (lineOf ls i)] := by
  have hl : i < (layout s ls).length := by simpa using hi
  have hline := lineOf_layout s ls hi
  rw [lineOf, List.getElem?_eq_getElem hl, Option.getD_some] at hline
  rw [List.take_add_one, List.getElem?_eq_getElem hl, hline]
  rfl

/-- The text down to the end of line `i`, laid out, and its line feed. -/
lemma lengthTo_layout {i : Nat} (hi : i < ls.length) :
    Page.lengthTo ⟨layout s ls, 0⟩ i (marginAt s ls i) + 1 =
      Text.extent ((layout s ls).take (i + 1)) := by
  have hcontent : contentOf (lineOf (layout s ls) i) = contentOf (lineOf ls i) := by
    rw [lineOf_layout s ls hi, Margin.contentOf_append, contentOf_contentOf]
  rw [take_succ_layout s ls hi, Text.extent_append, Page.lengthTo, hcontent]
  simp [Text.extent]
  omega

lemma records_append (i m n : Nat) :
    records s ls i (m + n) = records s ls i m ++ records s ls (i + m) n := by
  unfold records
  rw [← List.range'_append_1, List.filter_append, List.map_append]

lemma mem_records {r : Record} {i n : Nat} :
    r ∈ records s ls i n ↔
      ∃ j, (i ≤ j ∧ j < i + n) ∧ emptied s ls j = false ∧ record s ls j = r := by
  simp [records, List.mem_range'_1, and_assoc]

/-- Nobody but line `i` is told of by its record. -/
lemma find?_records {i n : Nat} (hi : i < n) (h : emptied s ls i = false) :
    (records s ls 0 n).find? (·.line == i) = some (record s ls i) := by
  have hmem : record s ls i ∈ records s ls 0 n :=
    (mem_records s ls).2 ⟨i, by omega, h, rfl⟩
  cases hf : (records s ls 0 n).find? (·.line == i) with
  | none => simpa [record] using List.find?_eq_none.1 hf _ hmem
  | some r =>
    obtain ⟨j, _, _, rfl⟩ := (mem_records s ls).1 (List.mem_of_find?_eq_some hf)
    have hj : j = i := by simpa [record] using List.find?_some hf
    rw [hj]

section Memory

variable [Memory]

lemma fits_eq_ok_iff {i : Nat} (hi : i < ls.length) :
    fits s ls i = .ok () ↔ Text.extent ((layout s ls).take (i + 1)) ≤ Memory.room + 1 := by
  have hlength := lengthTo_layout s ls hi
  have hwide : (marginAt s ls i).chars.length ≤
      Page.lengthTo ⟨layout s ls, 0⟩ i (marginAt s ls i) := by
    unfold Page.lengthTo
    omega
  rw [← hlength, Nat.add_le_add_iff_right, fits]
  cases he : emptied s ls i with
  | true =>
    rw [marginAt_of_emptied s ls he]
    exact Memory.check_eq_ok_iff
  | false =>
    rw [marginAt_of_not_emptied s ls he] at hwide ⊢
    rcases s.margin_cases (placed s ls i) with ⟨f, _, hm⟩ | hm
    · refine ⟨fun h => ?_, fun h => ?_⟩
      · rw [hm] at h
        cases h
      · rw [Style.margin_of_le (hwide.trans h)] at hm
        cases hm
    · rw [hm]
      exact Memory.check_eq_ok_iff

lemma tooLarge_of_fits {i : Nat} {f : Fault} (h : fits s ls i = .error f) : f.TooLarge := by
  rcases bind_eq_error_iff.1 h with h | ⟨m, _, h⟩
  · split at h
    · cases h
    · exact Style.margin_eq_error h
  · exact Memory.tooLarge_of_check h

lemma tooLarge_of_allFit {i n : Nat} {f : Fault} (h : allFit s ls i n = .error f) :
    f.TooLarge := by
  obtain ⟨j, _, hj⟩ := exists_of_forM_eq_error h
  exact tooLarge_of_fits s ls hj

/-- There is room for all lines if and only if the text that the pass leaves can be held. -/
theorem allFit_eq_ok_iff :
    allFit s ls 0 ls.length = .ok () ↔ Text.extent (layout s ls) ≤ Memory.room + 1 := by
  rw [allFit, forM_eq_ok_iff]
  constructor
  · intro h
    rcases Nat.eq_zero_or_pos ls.length with hnone | hsome
    · rw [List.length_eq_zero_iff.1 hnone]
      exact Nat.zero_le _
    · have hlast := h (ls.length - 1) (List.mem_range'_1.2 (by omega))
      rw [fits_eq_ok_iff s ls (by omega)] at hlast
      rwa [List.take_of_length_le (by rw [length_layout]; omega)] at hlast
  · intro h i hi
    have hlt := List.mem_range'_1.1 hi
    rw [fits_eq_ok_iff s ls (by omega)]
    have hprefix := Text.extent_take_mono (layout s ls) (i := i + 1) (j := ls.length) (by omega)
    rw [List.take_of_length_le (i := ls.length) (by rw [length_layout])] at hprefix
    exact hprefix.trans h

end Memory

/-- On lines that are laid out, a line stands at the level at which the pass found it. -/
lemma level_layout {i : Nat} (hi : i < ls.length) :
    level s (layout s ls) i = placedLevel s ls i := by
  have habove : above? (layout s ls) i = above? ls i := by
    rw [← above?_contents, contents_layout, above?_contents]
  have hdelta : ∀ j, delta s (layout s ls) j i = delta s ls j i := by
    intro j
    rw [← delta_contents, contents_layout, delta_contents]
  have hindent : indentAbove s (layout s ls) i = placedAbove s ls i := by
    unfold indentAbove placedAbove
    rw [habove]
    cases hj : above? ls i with
    | none => rfl
    | some j =>
      obtain ⟨hlt, hblank⟩ := above?_spec ls hj
      change columns s.tabWidth (lineOf (layout s ls) j) = placed s ls j
      rw [lineOf_layout s ls (hlt.trans hi),
        marginAt_of_not_emptied s ls (emptied_of_not_blank s ls hblank), columns_render]
  unfold level placedLevel
  rw [habove, hdelta, hindent]

end Outline

open Outline (lineOf placed emptied record records marginAt layout fits allFit)

variable {s : Style} {ls : List (List Char)} {p : Page} {i : Nat}

/-- Lines above line `i` are where a pass puts them, and all lines hold what they held. -/
abbrev Page.LaidTo (p : Page) (s : Style) (ls : List (List Char)) (i : Nat) : Prop :=
  p.Alike ⟨layout s ls, 0⟩ i

namespace Page.LaidTo

lemma length_lines (h : p.LaidTo s ls i) : p.lines.length = ls.length := by
  simpa using h.length_eq

lemma contentOf_line (h : p.LaidTo s ls i) (hi : i < ls.length) :
    contentOf (lineOf p.lines i) = contentOf (lineOf ls i) := by
  rw [h.contentOf_eq, Outline.lineOf_layout s ls hi, Margin.contentOf_append, contentOf_contentOf]

lemma allBlank_line (h : p.LaidTo s ls i) (hi : i < ls.length) :
    Text.allBlank (lineOf p.lines i) = Text.allBlank (lineOf ls i) := by
  rw [← Text.allBlank_contentOf, h.contentOf_line hi, Text.allBlank_contentOf]

lemma level_eq_placedLevel (h : p.LaidTo s ls i) (hi : i < ls.length) :
    Outline.level s p.lines i = Outline.placedLevel s ls i := by
  rw [h.level_eq s, Outline.level_layout s ls hi]

/-- One more line in its place. -/
lemma step (h : p.LaidTo s ls i) (hi : i < ls.length) :
    (p.place i (marginAt s ls i)).LaidTo s ls (i + 1) := by
  refine ⟨?_, by rw [contents_place, h.contents]⟩
  have hp : i < p.lines.length := h.length_lines ▸ hi
  rw [take_succ_place hp, h.above, h.contentOf_line hi]
  exact (Outline.take_succ_layout s ls hi).symm

variable [Memory]

/-- The line that comes next is placed where the layout has it, if there is room for it there. -/
lemma placeLine (h : p.LaidTo s ls i) (hi : i < ls.length) (he : emptied s ls i = false) :
    s.placeLine i p = match fits s ls i with
      | .error f => (.error f, p)
      | .ok _ => (.ok (record s ls i), p.place i (marginAt s ls i)) := by
  unfold Style.placeLine Style.placeAt fits
  rw [h.level_eq_placedLevel hi, ← Outline.placed_eq, he, Outline.marginAt_of_not_emptied s ls he]
  cases hm : s.margin (placed s ls i) with
  | error f => rfl
  | ok m =>
    obtain rfl := Style.eq_render hm
    change _ = match Memory.check (Page.lengthTo ⟨layout s ls, 0⟩ i (s.render (placed s ls i))) with
      | .error f => _
      | .ok _ => _
    rw [← h.lengthTo_eq]
    unfold Page.write
    dsimp only
    cases Memory.check (p.lengthTo i (s.render (placed s ls i))) with
    | error f => rfl
    | ok u => rfl

/-- So it is when the pass goes over it. -/
lemma placeNext (h : p.LaidTo s ls i) (hi : i < ls.length) :
    s.placeNext i p = match fits s ls i with
      | .error f => (.error f, p)
      | .ok _ => (.ok (records s ls i 1), p.place i (marginAt s ls i)) := by
  have hblank : (Text.allBlank (lineOf p.lines i) && !s.blankLines) = emptied s ls i := by
    rw [h.allBlank_line hi]
    rfl
  rw [Style.placeNext, hblank]
  cases he : emptied s ls i with
  | true =>
    have hrec : records s ls i 1 = [] := by simp [records, he]
    rw [if_pos rfl, hrec, fits, he, Outline.marginAt_of_emptied s ls he]
    unfold Page.write
    rw [h.lengthTo_eq]
    change _ = match Memory.check (Page.lengthTo ⟨layout s ls, 0⟩ i .empty) with
      | .error f => _
      | .ok _ => _
    cases Memory.check (Page.lengthTo ⟨layout s ls, 0⟩ i .empty) with
    | error f => rfl
    | ok u => rfl
  | false =>
    have hrec : records s ls i 1 = [record s ls i] := by simp [records, he]
    rw [if_neg Bool.false_ne_true, h.placeLine hi he, hrec]
    cases fits s ls i with
    | error f => rfl
    | ok u => rfl

end Page.LaidTo

section Memory

variable [Memory]

namespace Style

/-- The pass from line `i` on: records and lines as laid out, if there is room for all of them. -/
theorem placeFrom_layout (n : Nat) (h : p.LaidTo s ls i) (hn : i + n = ls.length) :
    (s.placeFrom n i p).1 = (allFit s ls i n).map (fun _ => records s ls i n) ∧
      (allFit s ls i n = .ok () → (s.placeFrom n i p).2.lines = layout s ls) := by
  induction n generalizing i p with
  | zero =>
    refine ⟨rfl, fun _ => ?_⟩
    have hp := h.above
    have hlen := h.length_lines
    rwa [List.take_of_length_le (by omega), List.take_of_length_le (by simp; omega)] at hp
  | succ n ih =>
    have hi : i < ls.length := by omega
    obtain ⟨hrest, hlines⟩ := ih (h.step hi) (by omega)
    have hfit : allFit s ls i (n + 1) = fits s ls i >>= fun _ => allFit s ls (i + 1) n := by
      rw [allFit, List.range'_succ]
      rfl
    have hrec : records s ls i (n + 1) = records s ls i 1 ++ records s ls (i + 1) n := by
      rw [Nat.add_comm, Outline.records_append]
    rw [placeFrom, h.placeNext hi, hfit, hrec]
    cases fits s ls i with
    | error f =>
      refine ⟨rfl, fun hok => ?_⟩
      cases hok
    | ok u =>
      dsimp only
      rw [hrest]
      refine ⟨?_, hlines⟩
      cases allFit s ls (i + 1) n with
      | error f => rfl
      | ok u => rfl

end Style

omit [Memory] in
/-- Before a pass, nothing is asked of the margins. -/
lemma laidTo_ofText (s : Style) (t : List Char) (c : Int) :
    (Document.ofText t c).page.LaidTo s (Text.splitLines t) 0 :=
  ⟨rfl, (Outline.contents_layout s _).symm⟩

omit [Memory] in
/-- Margins bring no line feeds into lines. -/
lemma splitLines_layout (s : Style) (t : List Char) :
    Text.splitLines (Text.joinLines (layout s (Text.splitLines t))) =
      layout s (Text.splitLines t) := by
  apply Text.cut_glue
  · apply List.ne_nil_of_length_pos
    rw [Outline.length_layout]
    exact List.length_pos_iff.2 (Text.splitLines_ne_nil t)
  · intro l hl
    obtain ⟨i, hi, rfl⟩ := List.mem_mapIdx.1 hl
    apply Document.newline_notMem_placed
    exact Text.newline_notMem_splitLines t _ (List.getElem_mem hi)

section Text

variable {settings : Settings} (hs : settings.style = .ok s)

include hs

/-- What a pass over a buffer tells, whose lines hold what the lines `ls` hold. -/
lemma perform_indentBuffer_records {b : Buffer} (hb : b.Sound) {lexer : Option Lexer}
    (hf : b.Fits s.escapes lexer) (hc : b.document.lines.map contentOf = ls.map contentOf) :
    (perform b (indentBuffer settings lexer)).1 =
      (allFit s ls 0 ls.length).map fun _ => records s ls 0 ls.length := by
  have hlaid : b.document.page.LaidTo s ls 0 :=
    ⟨rfl, hc.trans (Outline.contents_layout s ls).symm⟩
  obtain ⟨b', hp, _⟩ := turns_indentBuffer hs hb hf rfl
  rw [hp, hlaid.length_lines]
  exact (Style.placeFrom_layout _ hlaid (Nat.zero_add _)).1

lemma perform_indentBuffer_layout (t : List Char) (c : Int) :
    (perform (.ofText t c) (indentBuffer settings none)).1 =
      (allFit s (Text.splitLines t) 0 (Text.splitLines t).length).map
        fun _ => records s (Text.splitLines t) 0 (Text.splitLines t).length :=
  perform_indentBuffer_records hs (Buffer.sound_ofText t c) (Buffer.fits_none _ _) rfl

/-- What becomes of a text. -/
theorem indentText_layout (t : List Char) :
    indentText settings t =
      (allFit s (Text.splitLines t) 0 (Text.splitLines t).length).map
        fun _ => Text.joinLines (layout s (Text.splitLines t)) := by
  obtain ⟨hout, hlines⟩ := Style.placeFrom_layout _ (laidTo_ofText s t 0) (Nat.zero_add _)
  rw [indentText_eq hs, Style.placeText, hout]
  cases hf : allFit s (Text.splitLines t) 0 (Text.splitLines t).length with
  | error f => rfl
  | ok u =>
    rw [hlines hf]
    rfl

/-- Which texts come out of a pass, line by line: those that are laid out and can be held. -/
lemma indentText_eq_ok_iff {t u : List Char} :
    indentText settings t = .ok u ↔
      Text.splitLines u = layout s (Text.splitLines t) ∧ u.length ≤ Memory.room := by
  rw [indentText_layout hs]
  constructor
  · intro h
    obtain ⟨_, hf, rfl⟩ := exists_of_map_eq_ok h
    have hroom := (Outline.allFit_eq_ok_iff s _).1 hf
    have hsplit := splitLines_layout s t
    rw [← hsplit, Text.extent_splitLines, Nat.add_le_add_iff_right] at hroom
    exact ⟨hsplit, hroom⟩
  · rintro ⟨hu, hroom⟩
    have hf : allFit s (Text.splitLines t) 0 (Text.splitLines t).length = .ok () := by
      rw [Outline.allFit_eq_ok_iff, ← hu, Text.extent_splitLines]
      omega
    rw [hf, ← hu, Text.joinLines_splitLines]
    rfl

/-- A text comes out of a pass if there is room for the lines that the pass leaves. -/
lemma exists_indentText_of_le {t : List Char}
    (h : Text.extent (layout s (Text.splitLines t)) ≤ Memory.room + 1) :
    ∃ u, indentText settings t = .ok u ∧ Text.splitLines u = layout s (Text.splitLines t) := by
  have hsplit := splitLines_layout s t
  rw [← hsplit, Text.extent_splitLines, Nat.add_le_add_iff_right] at h
  exact ⟨_, (indentText_eq_ok_iff hs).2 ⟨hsplit, h⟩, hsplit⟩

end Text
end Memory
end SqlMargin
