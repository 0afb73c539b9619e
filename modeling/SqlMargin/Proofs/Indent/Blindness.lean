import SqlMargin.Proofs.Indent.Anchoring
import SqlMargin.Proofs.Indent.Hidden
import SqlMargin.Proofs.Indent.Layout

/-! Passes are blind to what literals and comments hold. Put another character in the place of one
that lies in a literal or a comment, where neither takes part in ending it: the pass tells the same
of every line, and leaves the same text but for that character. -/
namespace SqlMargin
open Edit (perform)
open Lexical (State afterLines isInert HoldsOpener lineState scan)

namespace Outline

/-- Lines that are read alike: the same of them are blank, and each starts in the same state, has
the same keyword, closer and end, and is as long past its margin. -/
structure Agrees (s : Style) (ls ms : List (List Char)) : Prop where
  length_eq : ls.length = ms.length
  blank : ∀ i, Text.allBlank (lineOf ls i) = Text.allBlank (lineOf ms i)
  state : ∀ i, lineState s.escapes ls i = lineState s.escapes ms i
  keyword : ∀ i, hasKeyword s ls i = hasKeyword s ms i
  closer : ∀ i, hasCloser s.escapes ls i = hasCloser s.escapes ms i
  opens : ∀ i, opens s.escapes ls i = opens s.escapes ms i
  content : ∀ i, (contentOf (lineOf ls i)).length = (contentOf (lineOf ms i)).length

namespace Agrees

variable {s : Style} {ls ms : List (List Char)} (h : Agrees s ls ms)

include h

lemma above?_eq (i : Nat) : above? ls i = above? ms i := by
  induction i with
  | zero => simp [above?, Document.lastCode]
  | succ i ih => rw [above?_succ, above?_succ, ih, h.blank]

lemma delta_eq (j i : Nat) : delta s ls j i = delta s ms j i := by
  have hopens : Outline.opens s.escapes ls = Outline.opens s.escapes ms := funext h.opens
  unfold delta
  simp only [h.state, h.keyword, h.closer, h.above?_eq, hopens]

/-- Lines that are read alike go to the same columns. -/
theorem placed_eq (i : Nat) : placed s ls i = placed s ms i := by
  induction i using Nat.strongRecOn with
  | _ i ih =>
    have hpast : placedAbove s ls i = placedAbove s ms i := by
      unfold placedAbove
      rw [h.above?_eq]
      cases hj : above? ms i with
      | none => rfl
      | some j => exact ih j (above?_spec ms hj).1
    rw [Outline.placed_eq, Outline.placed_eq]
    unfold placedLevel
    rw [h.above?_eq, h.delta_eq, hpast]

lemma record_eq : record s ls = record s ms := by
  funext i
  unfold record placedLevel placedAbove
  simp only [h.above?_eq, h.delta_eq, funext h.placed_eq]

lemma emptied_eq : emptied s ls = emptied s ms := by
  funext i
  rw [emptied, emptied, h.blank]

lemma marginAt_eq : marginAt s ls = marginAt s ms := by
  funext i
  rw [marginAt, marginAt, h.emptied_eq, h.placed_eq]

lemma records_eq (i n : Nat) : records s ls i n = records s ms i n := by
  rw [records, records, h.emptied_eq, h.record_eq]

lemma extent_take_layout_eq (i : Nat) :
    Text.extent ((layout s ls).take i) = Text.extent ((layout s ms).take i) := by
  induction i with
  | zero => rfl
  | succ i ih =>
    rcases Nat.lt_or_ge i ls.length with hi | hi
    · rw [take_succ_layout s ls hi, take_succ_layout s ms (h.length_eq ▸ hi), Text.extent_append,
        Text.extent_append, ih, h.marginAt_eq]
      simp [Text.extent, h.content]
    · have hi' : ms.length ≤ i := h.length_eq ▸ hi
      rwa [List.take_of_length_le (by rw [length_layout]; omega),
        List.take_of_length_le (by rw [length_layout]; omega)] at ih ⊢

lemma allFit_eq [Memory] (i n : Nat) : allFit s ls i n = allFit s ms i n := by
  have hlength : ∀ (j : Nat) (m : Margin),
      Page.lengthTo ⟨layout s ls, 0⟩ j m = Page.lengthTo ⟨layout s ms, 0⟩ j m := by
    intro j m
    have hcontent : ∀ ks : List (List Char),
        contentOf (lineOf (layout s ks) j) = contentOf (lineOf ks j) := fun ks => by
      rw [← lineOf_contents, contents_layout, lineOf_contents]
    unfold Page.lengthTo
    dsimp only
    rw [h.extent_take_layout_eq, hcontent, hcontent, h.content]
  have hfits : fits s ls = fits s ms := by
    funext j
    rw [fits, fits, h.emptied_eq, h.placed_eq]
    simp only [hlength]
  rw [allFit, allFit, hfits]

end Agrees
end Outline

/-- Lines with a gap for one character in one of them. -/
structure Gap where
  above : List (List Char)
  before : List Char
  after : List Char
  below : List (List Char)

namespace Gap
open Outline (lineOf hasKeyword hasCloser opens Agrees layout marginAt)

/-- The lines with a character in the gap. -/
def fill (g : Gap) (x : Char) : List (List Char) :=
  g.above ++ (g.before ++ x :: g.after) :: g.below

/-- The text before the gap. -/
def start (g : Gap) : List Char := Text.ended g.above ++ g.before

/-- The text after the gap. -/
def rest (g : Gap) : List Char := g.after ++ Text.begun g.below

lemma joinLines_fill (g : Gap) (x : Char) : Text.joinLines (g.fill x) = g.start ++ x :: g.rest := by
  have h := Text.joinLines_append g.above [g.before ++ x :: g.after] g.below (by simp)
  simpa [fill, start, rest, Text.joinLines, Text.glue] using h

/-- Any two texts are what stands before and after some gap. -/
lemma exists_splitLines_eq (a b : List Char) :
    ∃ g : Gap, g.start = a ∧ g.rest = b ∧
      ∀ x ≠ '\n', Text.splitLines (a ++ x :: b) = g.fill x := by
  obtain ⟨above, before, ha⟩ :=
    (List.eq_nil_or_concat (Text.splitLines a)).resolve_left (Text.splitLines_ne_nil a)
  rw [List.concat_eq_append] at ha
  obtain ⟨after, below, hb⟩ := List.exists_cons_of_ne_nil (Text.splitLines_ne_nil b)
  have hstart : Text.ended above ++ before = a := by
    have h := Text.joinLines_append above [before] [] (by simp)
    rw [List.append_nil, ← ha, Text.joinLines_splitLines] at h
    simp [h, Text.joinLines, Text.glue, Text.begun]
  have hrest : after ++ Text.begun below = b := by
    have h := Text.glue_cons '\n' after below
    rw [← hb] at h
    rw [Text.begun, ← h]
    exact Text.joinLines_splitLines b
  refine ⟨⟨above, before, after, below⟩, hstart, hrest, fun x hx => ?_⟩
  have hjoin := joinLines_fill ⟨above, before, after, below⟩ x
  simp only [start, rest, hstart, hrest] at hjoin
  rw [← hjoin]
  apply Text.cut_glue
  · simp [fill]
  · have hnew : ∀ l ∈ Text.splitLines a ++ Text.splitLines b, '\n' ∉ l := by
      intro l hl
      rcases List.mem_append.1 hl with hl | hl
      · exact Text.newline_notMem_splitLines a l hl
      · exact Text.newline_notMem_splitLines b l hl
    rw [ha, hb] at hnew
    simp only [fill, List.mem_append, List.mem_cons, List.not_mem_nil] at hnew ⊢
    rintro l (hl | rfl | hl)
    · exact hnew l (by simp [hl])
    · have hp := hnew before (by simp)
      have hq := hnew after (by simp)
      simp [hp, hq, hx.symm]
    · exact hnew l (by simp [hl])

/-- The gap lies in a literal or a comment. -/
def Hidden (g : Gap) (e : Bool) : Prop := (scan e {} g.start).isLiteral = true

lemma lineOf_fill_self (g : Gap) (x : Char) :
    lineOf (g.fill x) g.above.length = g.before ++ x :: g.after := by
  simp [lineOf, fill]

lemma lineOf_fill_of_ne (g : Gap) {i : Nat} (h : i ≠ g.above.length) (x d : Char) :
    lineOf (g.fill x) i = lineOf (g.fill d) i := by
  unfold lineOf fill
  rcases Nat.lt_or_gt_of_ne h with h | h
  · rw [List.getElem?_append_left h, List.getElem?_append_left h]
  · obtain ⟨k, rfl⟩ := Nat.exists_eq_add_of_lt h
    rw [List.getElem?_append_right (by omega), List.getElem?_append_right (by omega)]
    have hk : g.above.length + k + 1 - g.above.length = k + 1 := by omega
    rw [hk, List.getElem?_cons_succ, List.getElem?_cons_succ]

lemma allBlank_fill (g : Gap) {x d : Char} (hx : isInert x = true) (hd : isInert d = true)
    (i : Nat) :
    Text.allBlank (lineOf (g.fill x) i) = Text.allBlank (lineOf (g.fill d) i) := by
  by_cases hi : i = g.above.length
  · subst hi
    have hxb := ((Lexical.isInert_iff x).1 hx).1
    have hdb := ((Lexical.isInert_iff d).1 hd).1
    simp [lineOf_fill_self, Text.allBlank_append, hxb, hdb]
  · rw [g.lineOf_fill_of_ne hi x d]

lemma length_contentOf_fill (g : Gap) {x d : Char} (hx : isInert x = true) (hd : isInert d = true)
    (i : Nat) :
    (contentOf (lineOf (g.fill x) i)).length = (contentOf (lineOf (g.fill d) i)).length := by
  by_cases hi : i = g.above.length
  · subst hi
    rw [lineOf_fill_self, lineOf_fill_self, contentOf,
      dropWhile_append_cons (isIndent_of_isInert hx), contentOf,
      dropWhile_append_cons (isIndent_of_isInert hd)]
    simp
  · rw [g.lineOf_fill_of_ne hi x d]

lemma lineState_fill_self (g : Gap) (e : Bool) (x : Char) :
    lineState e (g.fill x) g.above.length = afterLines e {} g.above := by
  simp [lineState, fill]

section Hidden

variable {g : Gap} {e : Bool} {x d : Char}

lemma Hidden.shields (h : g.Hidden e) : Shields e (afterLines e {} g.above) g.before := by
  refine ⟨Lexical.natural_default.afterLines e _, ?_⟩
  rw [← Lexical.scan_ended_append]
  exact h

variable (h : g.Hidden e) (hx : isInert x = true) (hd : isInert d = true)

include h hx hd

lemma Hidden.lineState_eq (i : Nat) : lineState e (g.fill x) i = lineState e (g.fill d) i := by
  unfold lineState fill
  rcases Nat.lt_or_ge g.above.length i with hi | hi
  · obtain ⟨k, rfl⟩ := Nat.exists_eq_add_of_lt hi
    have hline := h.shields.scan_eq hx hd (g.after ++ ['\n'])
    rw [Nat.add_assoc, List.take_length_add_append, List.take_length_add_append]
    simp only [afterLines, List.take_succ_cons, List.foldl_append, List.foldl_cons,
      List.append_assoc, List.cons_append] at hline ⊢
    rw [hline]
  · rw [List.take_append_of_le_length hi, List.take_append_of_le_length hi]

lemma Hidden.opens_le (hopen : opens e (g.fill x) g.above.length = true) :
    opens e (g.fill d) g.above.length = true := by
  have hxb := ((Lexical.isInert_iff x).1 hx).1
  have hdb := ((Lexical.isInert_iff d).1 hd).1
  rw [opens_iff, lineState_fill_self, lineOf_fill_self, Text.trimRight_append_cons hxb] at hopen
  rw [opens_iff, lineState_fill_self, lineOf_fill_self, Text.trimRight_append_cons hdb]
  obtain ⟨a, z, hz, hasks, hcode⟩ := hopen
  obtain ⟨a', hz', hasks', hcode'⟩ := h.shields.asks hx hd hz hasks hcode
  exact ⟨a', z, hz', hasks', hcode'⟩

/-- What a line is told by at its start comes out alike, if it does so on the line with the gap when
that line starts in code. -/
lemma Hidden.any_code?_eq {f : List Char → Bool}
    (hf : (afterLines e {} g.above).isLiteral = false →
      f (contentOf (g.before ++ x :: g.after)) = f (contentOf (g.before ++ d :: g.after)))
    (i : Nat) :
    (Outline.code? e (g.fill x) i).any f = (Outline.code? e (g.fill d) i).any f := by
  unfold Outline.code?
  rw [g.allBlank_fill hx hd, h.lineState_eq hx hd]
  by_cases hi : i = g.above.length
  · subst hi
    rw [lineOf_fill_self, lineOf_fill_self, lineState_fill_self]
    cases hl : (afterLines e {} g.above).isLiteral with
    | true => simp
    | false =>
      rw [Bool.or_false]
      split
      · rfl
      · exact hf hl
  · rw [g.lineOf_fill_of_ne hi x d]

lemma Hidden.hasCloser_eq (i : Nat) : hasCloser e (g.fill x) i = hasCloser e (g.fill d) i := by
  apply h.any_code?_eq hx hd
  intro hcode
  have hopener := h.shields.holdsOpener_contentOf hcode
  rw [contentOf, dropWhile_append_cons (isIndent_of_isInert hx), contentOf,
    dropWhile_append_cons (isIndent_of_isInert hd)]
  exact (startsCloser_append hopener _).trans (startsCloser_append hopener _).symm

lemma Hidden.opens_eq (i : Nat) : opens e (g.fill x) i = opens e (g.fill d) i := by
  by_cases hi : i = g.above.length
  · subst hi
    rw [Bool.eq_iff_iff]
    exact ⟨h.opens_le hx hd, h.opens_le hd hx⟩
  · unfold opens
    rw [h.lineState_eq hx hd, g.lineOf_fill_of_ne hi x d]

omit h in
/-- Nothing that a pass goes by is changed by another character in a hidden gap. -/
theorem Hidden.agrees {s : Style} (hk : ∀ w ∈ s.keywords, ¬ HoldsOpener w.toList)
    (h : g.Hidden s.escapes) : Agrees s (g.fill x) (g.fill d) where
  length_eq := by simp [fill]
  blank := g.allBlank_fill hx hd
  state := h.lineState_eq hx hd
  keyword := h.any_code?_eq hx hd fun hcode => h.shields.leads_eq hcode hk hx hd _
  closer := h.hasCloser_eq hx hd
  opens := h.opens_eq hx hd
  content := g.length_contentOf_fill hx hd

end Hidden

/-- The gap in the lines that a pass leaves. -/
def laid (g : Gap) (margin : Nat → Margin) : Gap where
  above := g.above.mapIdx fun i l => (margin i).chars ++ contentOf l
  before := (margin g.above.length).chars ++ contentOf g.before
  after := g.after
  below := g.below.mapIdx fun i l => (margin (g.above.length + (i + 1))).chars ++ contentOf l

lemma layout_fill (g : Gap) (s : Style) {x : Char} (hx : isIndent x = false) :
    layout s (g.fill x) = (g.laid (marginAt s (g.fill x))).fill x := by
  have hcontent : contentOf (g.before ++ x :: g.after) = contentOf g.before ++ x :: g.after :=
    dropWhile_append_cons hx _ _
  unfold layout
  generalize marginAt s (g.fill x) = margin
  simp [fill, laid, List.mapIdx_append, List.mapIdx_cons, hcontent, Nat.add_comm, Nat.add_left_comm]

/-- Where the character of a gap stands: in the line of the gap, as far past its margin as there are
characters before the gap that are not in the margin. -/
lemma page_past (g : Gap) {x : Char} (hx : isIndent x = false) {t : List Char}
    (ht : Text.splitLines t = g.fill x) :
    (Document.ofText t g.start.length).page.Past g.above.length (contentOf g.before).length := by
  have htext : t = g.start ++ x :: g.rest := by
    rw [← joinLines_fill, ← ht, Text.joinLines_splitLines]
  have hline := g.lineOf_fill_self x
  have hmargin : (marginOf (g.before ++ x :: g.after)).length + (contentOf g.before).length =
      g.before.length := by
    have hl := congrArg List.length (marginOf_append_contentOf (g.before ++ x :: g.after))
    rw [contentOf, dropWhile_append_cons hx] at hl
    simp only [List.length_append, List.length_cons] at hl
    unfold contentOf
    omega
  have hcursor : (Document.ofText t g.start.length).cursor = g.start.length := by
    change min g.start.length t.length = _
    rw [htext, List.length_append]
    omega
  have hlines : (Document.ofText t g.start.length).page.lines = g.fill x := ht
  refine ⟨g.before.length, ⟨?_, ?_, ?_⟩, ?_⟩
  · rw [hlines]
    simp [fill]
  · rw [hlines, hline]
    simp
  · rw [hlines]
    change (Document.ofText t g.start.length).cursor = _
    rw [hcursor, start, List.length_append, Text.length_ended]
    simp [fill]
  · rw [hlines, hline]
    omega

section Pass

variable {g : Gap} {settings : Settings} {s : Style} {x d : Char} (hs : settings.style = .ok s)
  (hk : ∀ w ∈ s.keywords, ¬ HoldsOpener w.toList) (h : g.Hidden s.escapes) (hx : isInert x = true)
  (hd : isInert d = true) {t t' : List Char} (ht : Text.splitLines t = g.fill x)
  (ht' : Text.splitLines t' = g.fill d)

include hs hk h hx hd ht ht'

lemma perform_indentBuffer_fill [Memory] (c : Int) :
    (perform (.ofText t' c) (indentBuffer settings none)).1 =
      (perform (.ofText t c) (indentBuffer settings none)).1 := by
  have hagree := Hidden.agrees hx hd hk h
  rw [perform_indentBuffer_layout hs, perform_indentBuffer_layout hs, ht, ht', hagree.length_eq,
    hagree.allFit_eq, hagree.records_eq]

/-- The text that a pass leaves has the gap, too, and the same character in it. -/
lemma indentText_fill [Memory] :
    indentText settings t' = (indentText settings t).map
      (·.set (g.laid (marginAt s (g.fill x))).start.length d) := by
  have hagree := Hidden.agrees hx hd hk h
  rw [indentText_layout hs, indentText_layout hs, ht, ht', ← hagree.length_eq, ← hagree.allFit_eq,
    g.layout_fill s (isIndent_of_isInert hx), g.layout_fill s (isIndent_of_isInert hd),
    ← hagree.marginAt_eq, joinLines_fill, joinLines_fill]
  cases Outline.allFit s (g.fill x) 0 (g.fill x).length with
  | error f => rfl
  | ok u => simp [Except.map]

end Pass

lemma page_past_laid [Memory] (g : Gap) {settings : Settings} {s : Style} {x : Char}
    (hs : settings.style = .ok s) (hx : isIndent x = false) {t u : List Char}
    (ht : Text.splitLines t = g.fill x) (hu : indentText settings t = .ok u) :
    u = (g.laid (marginAt s (g.fill x))).start ++ x :: (g.laid (marginAt s (g.fill x))).rest ∧
      (Document.ofText u (g.laid (marginAt s (g.fill x))).start.length).page.Past
        g.above.length (contentOf g.before).length := by
  have hsplit := ((indentText_eq_ok_iff hs).1 hu).1
  rw [ht, g.layout_fill s hx] at hsplit
  have hpast := page_past _ hx hsplit
  have hcontent : contentOf (g.laid (marginAt s (g.fill x))).before = contentOf g.before := by
    rw [laid, Margin.contentOf_append, contentOf_contentOf]
  have habove : (g.laid (marginAt s (g.fill x))).above.length = g.above.length := List.length_mapIdx
  rw [hcontent, habove] at hpast
  refine ⟨?_, hpast⟩
  rw [← joinLines_fill, ← hsplit, Text.joinLines_splitLines]

end Gap

/-- A character in a literal or a comment that takes no part in ending it may be replaced by another
such character, if no keyword has in it what starts a literal or a comment. The pass tells the same
of every line. It leaves the text that it leaves without the replacement, with the replacement made
in it: in the same line, as far past its margin. -/
theorem indentText_hidden [Memory] (settings : Settings) (s : Style) (hs : settings.style = .ok s)
    (hk : ∀ w ∈ s.keywords, ¬ HoldsOpener w.toList) (t : List Char) (p : Nat) (x d : Char)
    (hp : t[p]? = some x) (hl : (scan s.escapes {} (t.take p)).isLiteral = true)
    (hx : isInert x = true) (hd : isInert d = true) :
    (∀ c : Int, (perform (.ofText (t.set p d) c) (indentBuffer settings none)).1 =
      (perform (.ofText t c) (indentBuffer settings none)).1) ∧
    ∃ q, indentText settings (t.set p d) = (indentText settings t).map (·.set q d) ∧
      ∀ u, indentText settings t = .ok u → u[q]? = some x ∧
        (Document.ofText u q).cursorLine = (Document.ofText t p).cursorLine ∧
        (Document.ofText u q).pastMargin = (Document.ofText t p).pastMargin := by
  obtain ⟨hlt, hget⟩ := List.getElem?_eq_some_iff.1 hp
  have ht : t = t.take p ++ x :: t.drop (p + 1) := by
    rw [← hget, ← List.drop_eq_getElem_cons hlt, List.take_append_drop]
  have ht' : t.set p d = t.take p ++ d :: t.drop (p + 1) := by
    rw [List.set_eq_take_append_cons_drop, if_pos hlt]
  obtain ⟨g, hstart, _, hsplit⟩ := Gap.exists_splitLines_eq (t.take p) (t.drop (p + 1))
  have hsx := hsplit x (Lexical.ne_newline_of_isInert hx)
  have hsd := hsplit d (Lexical.ne_newline_of_isInert hd)
  rw [← ht] at hsx
  rw [← ht'] at hsd
  have hhidden : g.Hidden s.escapes := by rwa [Gap.Hidden, hstart]
  refine ⟨Gap.perform_indentBuffer_fill hs hk hhidden hx hd hsx hsd, _,
    Gap.indentText_fill hs hk hhidden hx hd hsx hsd, fun u hu => ?_⟩
  have hxi := isIndent_of_isInert hx
  obtain ⟨rfl, hpast⟩ := g.page_past_laid hs hxi hsx hu
  have hfrom := g.page_past hxi hsx
  have hlen : g.start.length = p := by
    rw [hstart, List.length_take]
    omega
  rw [hlen] at hfrom
  obtain ⟨hline, hpm, _⟩ := Document.of_page_past hpast
  obtain ⟨hline', hpm', _⟩ := Document.of_page_past hfrom
  exact ⟨by simp, hline.trans hline'.symm, hpm.trans hpm'.symm⟩

section Ample

attribute [local instance] Memory.ample

/-- A parenthesis at the end of a comment, on a line that is moved, may as well be a letter. -/
theorem indentText_hidden_parenthesis :
    let t := "a (\nb -- (\nc".toList
    t[9]? = some '(' ∧ (scan true {} (t.take 9)).isLiteral = true ∧
      (∀ c : Int, (perform (.ofText (t.set 9 'x') c) (indentBuffer {} none)).1 =
        (perform (.ofText t c) (indentBuffer {} none)).1) ∧
      ∃ q, indentText {} (t.set 9 'x') = (indentText {} t).map (·.set q 'x') := by
  intro t
  have hp : t[9]? = some '(' := by decide
  have hl : (scan true {} (t.take 9)).isLiteral = true := by decide
  obtain ⟨hrecords, q, htext, _⟩ := indentText_hidden {} _ rfl (by decide +kernel) t 9 '(' 'x' hp hl
    (by decide) (by decide)
  exact ⟨hp, hl, hrecords, q, htext⟩

end Ample
end SqlMargin
