import SqlMargin.Proofs.Indent.Agreement
import SqlMargin.Proofs.Indent.Layout

/-! Stable texts. A pass leaves a text as it is exactly when indenting any one of its lines does,
and once a pass is over, single lines may be indented again in any order: nothing changes, and each
is told of as in the pass. -/
namespace SqlMargin
open Edit (Turns perform)
open Outline (lineOf placed emptied record records marginAt layout fits allFit)

variable {s : Style} {ls : List (List Char)} {settings : Settings} {b : Buffer}

lemma Document.text_eq_iff (d : Document) (t : List Char) :
    d.text = t ↔ d.lines = Text.splitLines t := by
  constructor
  · rintro rfl
    exact d.splitLines_text.symm
  · intro h
    rw [text, h, Text.joinLines_splitLines]

section Memory

variable [Memory]

lemma fits_of_allFit (h : allFit s ls 0 ls.length = .ok ()) {i : Nat} (hi : i < ls.length) :
    fits s ls i = .ok () :=
  forM_eq_ok_iff.1 h i (List.mem_range'_1.2 (by omega))

/-- A laid out line that is indented again stays, wherever the cursor is. -/
lemma Style.placeLine_layout (h : allFit s ls 0 ls.length = .ok ()) {i : Nat} (hi : i < ls.length)
    (he : emptied s ls i = false) (c : Nat) :
    ∃ c', s.placeLine i ⟨layout s ls, c⟩ = (.ok (record s ls i), ⟨layout s ls, c'⟩) := by
  have hlaid : Page.LaidTo ⟨layout s ls, c⟩ s ls i := ⟨rfl, rfl⟩
  have hmargin : marginOf (lineOf (layout s ls) i) = (marginAt s ls i).chars := by
    rw [Outline.lineOf_layout s ls hi, Margin.marginOf_append, marginOf_contentOf, List.append_nil]
  rw [hlaid.placeLine hi he, fits_of_allFit h hi]
  refine ⟨(Page.place ⟨layout s ls, c⟩ i (marginAt s ls i)).cursor, ?_⟩
  have hlines := modify_margin_self (layout s ls) i hmargin
  exact congrArg (fun ls' => (_, Page.mk ls' _)) hlines

/-- Lines of a laid out buffer, one after another in any order. -/
theorem turns_indentLines_layout (hs : settings.style = .ok s)
    (h : allFit s ls 0 ls.length = .ok ()) (is : List Nat)
    (his : ∀ i ∈ is, i < ls.length ∧ emptied s ls i = false) (hb : b.Sound)
    (hl : b.document.lines = layout s ls) :
    ∃ c, Turns b (is.mapM fun i : Nat => indentLine settings none none (some i))
      (.ok (is.map (record s ls)), ⟨layout s ls, c⟩) := by
  induction is generalizing b with
  | nil => exact ⟨b.document.cursor, .pure (congrArg (Page.mk · _) hl) _⟩
  | cons i is ih =>
    obtain ⟨hi, he⟩ := his i List.mem_cons_self
    obtain ⟨c', hplace⟩ := Style.placeLine_layout h hi he b.document.cursor
    have hline := turns_indentLine hs hb (b.fits_none _) (congrArg (Page.mk · _) hl)
      (i := i) (by simpa using hi)
    rw [hplace] at hline
    obtain ⟨b₁, hp, e₁, h₁⟩ := hline
    obtain ⟨c, hrest⟩ := ih (fun j hj => his j (List.mem_cons_of_mem i hj)) (e₁.sound hb)
      (congrArg Page.lines h₁)
    refine ⟨c, ?_⟩
    obtain ⟨b₂, hp₂, e₂, h₂⟩ := hrest
    refine ⟨b₂, ?_, e₁.trans e₂, h₂⟩
    rw [List.mapM_cons, Edit.perform_bind_ok hp, Edit.perform_bind_ok hp₂]
    rfl

/-- Lines that are all left as they are when they are indented are where a pass puts them. -/
lemma laidTo_of_placeLine (hblank : s.blankLines = true) {c : Nat} (n : Nat) (hn : n ≤ ls.length)
    (h : ∀ i < ls.length, ∃ r q, s.placeLine i ⟨ls, c⟩ = (.ok r, q) ∧ q.lines = ls) :
    Page.LaidTo ⟨ls, c⟩ s ls n ∧ ∀ i < n, fits s ls i = .ok () := by
  -- Once the lines above are where the layout has them, the next one is placed as in the layout.
  induction n with
  | zero => exact ⟨⟨rfl, (Outline.contents_layout s ls).symm⟩, fun i hi => absurd hi (by omega)⟩
  | succ n ih =>
    obtain ⟨hlaid, hfits⟩ := ih (by omega)
    have hlt : n < ls.length := by omega
    have he : emptied s ls n = false := by simp [emptied, hblank]
    obtain ⟨r, q, hplace, hq⟩ := h n hlt
    rw [hlaid.placeLine hlt he] at hplace
    cases hf : fits s ls n with
    | error f =>
      rw [hf] at hplace
      cases hplace
    | ok u =>
      rw [hf] at hplace
      cases hplace
      have hstep := hlaid.step hlt
      refine ⟨⟨?_, hlaid.contents⟩, fun i hi => ?_⟩
      · have habove := hstep.above
        rwa [hq] at habove
      · rcases Nat.lt_succ_iff_lt_or_eq.1 hi with hi | rfl
        · exact hfits i hi
        · exact hf

/-- A pass changes nothing exactly when no single line does. -/
lemma layout_eq_self_iff (hblank : s.blankLines = true) (c : Nat) :
    (ls = layout s ls ∧ Text.extent ls ≤ Memory.room + 1) ↔
      ∀ i < ls.length, ∃ r q, s.placeLine i ⟨ls, c⟩ = (.ok r, q) ∧ q.lines = ls := by
  constructor
  · rintro ⟨hls, hroom⟩ i hi
    have hfit : allFit s ls 0 ls.length = .ok () := by rwa [Outline.allFit_eq_ok_iff, ← hls]
    obtain ⟨c', hplace⟩ := Style.placeLine_layout hfit hi (by simp [emptied, hblank]) c
    rw [← hls] at hplace
    exact ⟨_, _, hplace, rfl⟩
  · intro h
    obtain ⟨hlaid, hfits⟩ := laidTo_of_placeLine hblank ls.length (Nat.le_refl _) h
    have habove := hlaid.above
    rw [List.take_of_length_le (Nat.le_refl _), List.take_of_length_le (by simp)] at habove
    have hfit : allFit s ls 0 ls.length = .ok () :=
      forM_eq_ok_iff.2 fun i hi => hfits i (by simpa using (List.mem_range'_1.1 hi).2)
    rw [Outline.allFit_eq_ok_iff] at hfit
    exact ⟨habove, by rwa [habove]⟩

/-- What a single call does to a text. -/
lemma perform_indentLine_ofText (hs : settings.style = .ok s) (t : List Char) (c : Int) {i : Nat}
    (hi : i < (Text.splitLines t).length) :
    ∃ b, perform (.ofText t c) (indentLine settings none none (some i)) =
        ((s.placeLine i (Document.ofText t c).page).1, b) ∧
      b.document.page = (s.placeLine i (Document.ofText t c).page).2 := by
  obtain ⟨b, hp, _, hpage⟩ :=
    turns_indentLine hs (Buffer.sound_ofText t c) (Buffer.fits_none _ _) rfl hi
  exact ⟨b, hp, hpage⟩

lemma perform_indentLine_eq_iff (hs : settings.style = .ok s) (t : List Char) (c : Int) {i : Nat}
    (hi : i < (Text.splitLines t).length) :
    (∃ r b, perform (.ofText t c) (indentLine settings none none (some i)) = (.ok r, b) ∧
        b.document.text = t) ↔
      ∃ r q, s.placeLine i (Document.ofText t c).page = (.ok r, q) ∧
        q.lines = Text.splitLines t := by
  obtain ⟨b, hp, hpage⟩ := perform_indentLine_ofText hs t c hi
  rw [hp]
  constructor
  · rintro ⟨r, b', hb, ht⟩
    obtain ⟨hr, rfl⟩ := Prod.mk.inj hb
    refine ⟨r, b.document.page, Prod.ext hr hpage.symm, ?_⟩
    exact (Document.text_eq_iff _ _).1 ht
  · rintro ⟨r, q, hq, hlines⟩
    rw [hq] at hpage ⊢
    refine ⟨r, b, rfl, (Document.text_eq_iff _ _).2 ?_⟩
    rw [← hlines]
    exact congrArg Page.lines hpage

/-- Where blank lines are indented too, a text is what a pass makes of it exactly when indenting any
one of its lines leaves it as it is. With any style, lines of a text that a pass has made, blank
ones apart where those are emptied, may be indented again in any order and any number of times: the
text stays, and each line is told of as in the pass. -/
theorem indentText_stable (settings : Settings) (s : Style) (hs : settings.style = .ok s)
    (t : List Char) (c : Int) :
    (s.blankLines = true → (indentText settings t = .ok t ↔
      ∀ i < (Text.splitLines t).length, ∃ r b,
        perform (.ofText t c) (indentLine settings none none (some i)) = (.ok r, b) ∧
          b.document.text = t)) ∧
      ∀ u, indentText settings t = .ok u →
        ∃ rs, (perform (.ofText t c) (indentBuffer settings none)).1 = .ok rs ∧
          ∀ is : List Nat, (∀ i ∈ is, i < (Text.splitLines u).length ∧
              (s.blankLines = false → (Document.ofText u c).isBlank i = false)) →
            ∃ done b, perform (.ofText u c)
                (is.mapM fun i : Nat => indentLine settings none none (some i)) = (.ok done, b) ∧
              b.document.text = u ∧
              is.map (fun i => rs.find? (·.line == i)) = done.map some := by
  refine ⟨fun hblank => ?_, fun u hu => ?_⟩
  · have hself : (Text.splitLines t = layout s (Text.splitLines t) ∧
        Text.extent (Text.splitLines t) ≤ Memory.room + 1) ↔ _ :=
      layout_eq_self_iff hblank (Document.ofText t c).cursor
    rw [Text.extent_splitLines, Nat.add_le_add_iff_right] at hself
    rw [indentText_eq_ok_iff hs, hself]
    exact forall₂_congr fun i hi => (perform_indentLine_eq_iff hs t c hi).symm
  · obtain ⟨hlayout, hroom⟩ := (indentText_eq_ok_iff hs).1 hu
    have hfit : allFit s (Text.splitLines t) 0 (Text.splitLines t).length = .ok () := by
      rw [Outline.allFit_eq_ok_iff, ← hlayout, Text.extent_splitLines]
      exact Nat.add_le_add_right hroom 1
    refine ⟨_, by rw [perform_indentBuffer_layout hs, hfit]; rfl, fun is his => ?_⟩
    have hlines : ∀ i ∈ is, i < (Text.splitLines t).length ∧
        emptied s (Text.splitLines t) i = false := by
      intro i hi
      obtain ⟨hlt, hempty⟩ := his i hi
      rw [hlayout, Outline.length_layout] at hlt
      refine ⟨hlt, ?_⟩
      change s.blankLines = false → Text.allBlank (lineOf (Text.splitLines u) i) = false at hempty
      rw [hlayout, Outline.lineOf_layout s _ hlt, allBlank_place] at hempty
      unfold emptied
      cases hb : s.blankLines with
      | true => simp
      | false => rw [hempty hb, Bool.false_and]
    obtain ⟨c', b, hp, _, hpage⟩ := turns_indentLines_layout hs hfit is hlines
      (Buffer.sound_ofText u c) hlayout
    refine ⟨_, b, hp, (Document.text_eq_iff _ _).2 ?_, ?_⟩
    · rw [hlayout]
      exact congrArg Page.lines hpage
    · rw [List.map_map]
      apply List.map_congr_left
      intro i hi
      obtain ⟨hlt, he⟩ := hlines i hi
      exact Outline.find?_records s _ hlt he

end Memory

section Ample

attribute [local instance] Memory.ample

/-- A pass over three lines, the last of which closes a parenthesis, leaves a text that each line by
itself leaves alone; so do its lines from the last one up and down again. -/
theorem indentText_stable_lines :
    let u := "a (\n    b\n)".toList
    indentText {} "a (\nb\n)".toList = .ok u ∧ indentText {} u = .ok u ∧
      (∀ i < 3, ∃ r b, perform (.ofText u 0) (indentLine {} none none (some (i : Nat))) = (.ok r, b) ∧
        b.document.text = u) ∧
      ∃ done b, perform (.ofText u 0)
          ([2, 1, 0, 1, 2].mapM fun i : Nat => indentLine {} none none (some i)) = (.ok done, b) ∧
        b.document.text = u := by
  intro u
  have hu : indentText {} "a (\nb\n)".toList = .ok u := by decide +kernel
  have huu : indentText {} u = .ok u := by decide +kernel
  obtain ⟨rs, _, h⟩ := (indentText_stable {} _ rfl "a (\nb\n)".toList 0).2 _ hu
  obtain ⟨done, b, hp, ht, _⟩ := h [2, 1, 0, 1, 2] (by decide)
  exact ⟨hu, huu, ((indentText_stable {} _ rfl u 0).1 rfl).1 huu, done, b, hp, ht⟩

end Ample
end SqlMargin
