import SqlMargin.Proofs.Indent.Bounds
import SqlMargin.Proofs.Indent.Stability

/-! A line is placed by the lines above it and by what it holds itself. Lines below have no part in
it: a pass over the first lines of a text does to them what a pass over the whole text does, and so
does indenting one line by itself. -/
namespace SqlMargin
open Edit (perform Turns)

namespace Outline
open Lexical (lineState)

section Congr

variable {ls ms : List (List Char)} {n : Nat} (h : ls.take n = ms.take n)

include h

lemma take_congr {i : Nat} (hi : i ≤ n) : ls.take i = ms.take i := by
  have ht := congrArg (List.take i) h
  rwa [List.take_take, List.take_take, Nat.min_eq_left hi] at ht

lemma lineState_congr (e : Bool) {i : Nat} (hi : i ≤ n) : lineState e ls i = lineState e ms i := by
  unfold lineState
  rw [take_congr h hi]

lemma code?_congr (e : Bool) {i : Nat} (hi : i < n) : code? e ls i = code? e ms i := by
  unfold code?
  rw [lineOf_congr h hi, lineState_congr h e (Nat.le_of_lt hi)]

lemma opens_congr (e : Bool) {i : Nat} (hi : i < n) : opens e ls i = opens e ms i := by
  unfold opens
  rw [lineOf_congr h hi, lineState_congr h e (Nat.le_of_lt hi)]

lemma delta_congr (s : Style) {j i : Nat} (hj : j ≤ i) (hi : i < n) :
    delta s ls j i = delta s ms j i := by
  have habove := above?_congr (take_congr h (Nat.le_of_lt hi))
  have hopens : (above? ms i).any (opens s.escapes ls) = (above? ms i).any (opens s.escapes ms) := by
    cases hk : above? ms i with
    | none => rfl
    | some k => exact opens_congr h s.escapes ((above?_spec ms hk).1.trans hi)
  unfold delta hasKeyword hasCloser
  rw [lineState_congr h _ (Nat.le_of_lt hi), lineState_congr h _ (Nat.le_of_lt (hj.trans_lt hi)),
    code?_congr h _ (hj.trans_lt hi), code?_congr h _ hi, habove, hopens]

/-- The level of a line hangs on the lines up to it. -/
lemma level_congr (s : Style) {i : Nat} (hi : i < n) : level s ls i = level s ms i := by
  have habove := above?_congr (take_congr h (Nat.le_of_lt hi))
  have hindent : indentAbove s ls i = indentAbove s ms i := by
    unfold indentAbove
    rw [habove]
    cases hj : above? ms i with
    | none => rfl
    | some j =>
      exact congrArg (columns s.tabWidth) (lineOf_congr h ((above?_spec ms hj).1.trans hi))
  unfold level
  rw [habove, hindent, delta_congr h s (getD_above?_le ms i) hi]

lemma placedAbove_congr (s : Style) {i : Nat} (hi : i < n)
    (hj : ∀ j < i, placed s ls j = placed s ms j) : placedAbove s ls i = placedAbove s ms i := by
  unfold placedAbove
  rw [above?_congr (take_congr h (Nat.le_of_lt hi))]
  cases ha : above? ms i with
  | none => rfl
  | some j => exact hj j (above?_spec ms ha).1

lemma placedLevel_congr (s : Style) {i : Nat} (hi : i < n)
    (hj : ∀ j < i, placed s ls j = placed s ms j) : placedLevel s ls i = placedLevel s ms i := by
  unfold placedLevel
  rw [placedAbove_congr h s hi hj, above?_congr (take_congr h (Nat.le_of_lt hi)),
    delta_congr h s (getD_above?_le ms i) hi]

/-- So do the columns at which a pass puts it. -/
theorem placed_congr (s : Style) {i : Nat} (hi : i < n) : placed s ls i = placed s ms i := by
  induction i using Nat.strongRecOn with
  | _ i ih =>
    rw [placed_eq, placed_eq, placedLevel_congr h s hi fun j hj => ih j hj (hj.trans hi)]

lemma record_congr (s : Style) {i : Nat} (hi : i < n) : record s ls i = record s ms i := by
  have habove : ∀ j < i, placed s ls j = placed s ms j := fun j hj =>
    placed_congr h s (hj.trans hi)
  unfold record
  rw [placedLevel_congr h s hi habove, placedAbove_congr h s hi habove, placed_congr h s hi]

lemma emptied_congr (s : Style) {i : Nat} (hi : i < n) : emptied s ls i = emptied s ms i := by
  unfold emptied
  rw [lineOf_congr h hi]

lemma marginAt_congr (s : Style) {i : Nat} (hi : i < n) : marginAt s ls i = marginAt s ms i := by
  unfold marginAt
  rw [emptied_congr h s hi, placed_congr h s hi]

lemma take_layout_congr (s : Style) {i : Nat} (hi : i ≤ n) :
    (layout s ls).take i = (layout s ms).take i := by
  apply List.ext_getElem?
  intro j
  by_cases hj : j < i
  · have hline : ls[j]? = ms[j]? := by
      rw [← List.getElem?_take_of_lt (hj.trans_le hi), h, List.getElem?_take_of_lt (hj.trans_le hi)]
    rw [List.getElem?_take_of_lt hj, List.getElem?_take_of_lt hj, layout, layout,
      List.getElem?_mapIdx, List.getElem?_mapIdx, hline, marginAt_congr h s (hj.trans_le hi)]
  · rw [List.getElem?_take_eq_none (by omega), List.getElem?_take_eq_none (by omega)]

lemma fits_congr [Memory] (s : Style) {i : Nat} (hi : i < n) : fits s ls i = fits s ms i := by
  have hcontent : ∀ ks : List (List Char),
      contentOf (lineOf (layout s ks) i) = contentOf (lineOf ks i) := fun ks => by
    rw [← lineOf_contents, contents_layout, lineOf_contents]
  unfold fits Page.lengthTo
  dsimp only
  rw [emptied_congr h s hi, placed_congr h s hi, take_layout_congr h s (Nat.le_of_lt hi), hcontent,
    hcontent, lineOf_congr h hi]

lemma allFit_congr [Memory] (s : Style) : allFit s ls 0 n = allFit s ms 0 n :=
  forM_congr fun i hi => fits_congr h s (by simpa using (List.mem_range'_1.1 hi).2)

lemma records_congr (s : Style) : records s ls 0 n = records s ms 0 n := by
  have hlt : ∀ i ∈ List.range' 0 n, i < n := fun i hi => by
    have := List.mem_range'_1.1 hi
    omega
  unfold records
  rw [List.filter_congr fun i hi => by rw [emptied_congr h s (hlt i hi)]]
  exact List.map_congr_left fun i hi => record_congr h s (hlt i (List.mem_filter.1 hi).1)

end Congr

section Append

variable (s : Style) (ls ms : List (List Char))

/-- Of lines and more lines below them, a pass tells of the first ones as if there were no
others. -/
lemma filter_records_append :
    (records s (ls ++ ms) 0 (ls ++ ms).length).filter (fun r => decide (r.line < ls.length)) =
      records s ls 0 ls.length := by
  have hbefore : ∀ r ∈ records s (ls ++ ms) 0 ls.length, r.line < ls.length := by
    intro r hr
    obtain ⟨j, hj, _, rfl⟩ := (mem_records s _).1 hr
    exact Nat.lt_of_lt_of_eq hj.2 (Nat.zero_add _)
  have hafter : ∀ r ∈ records s (ls ++ ms) (0 + ls.length) ms.length, ¬ r.line < ls.length := by
    intro r hr
    obtain ⟨j, hj, _, rfl⟩ := (mem_records s _).1 hr
    change ¬ j < ls.length
    omega
  have hsame : (ls ++ ms).take ls.length = ls.take ls.length := by simp
  rw [List.length_append, records_append, List.filter_append,
    List.filter_eq_self.2 fun r hr => decide_eq_true (hbefore r hr),
    List.filter_eq_nil_iff.2 fun r hr => by simpa using hafter r hr, List.append_nil,
    records_congr hsame]

/-- First there has to be room for the lines by themselves. -/
lemma allFit_append [Memory] :
    allFit s (ls ++ ms) 0 (ls ++ ms).length =
      allFit s ls 0 ls.length >>= fun _ => allFit s (ls ++ ms) ls.length ms.length := by
  have hsame : (ls ++ ms).take ls.length = ls.take ls.length := by simp
  rw [← allFit_congr hsame, allFit, List.length_append, ← List.range'_append_1, forM_append,
    Nat.zero_add]
  rfl

lemma take_layout_append : (layout s (ls ++ ms)).take ls.length = layout s ls := by
  have hsame : (ls ++ ms).take ls.length = ls.take ls.length := by simp
  rw [take_layout_congr hsame s (Nat.le_refl _), List.take_of_length_le (by rw [length_layout])]

end Append
end Outline

section Text
open Outline (allFit layout records)

variable [Memory] {settings : Settings} {s : Style} (hs : settings.style = .ok s) {a b : List Char}

include hs

/-- The first lines of a text that can be indented, indented by themselves. -/
lemma indentText_append {u : List Char} (h : indentText settings (a ++ '\n' :: b) = .ok u) :
    ∃ v, indentText settings a = .ok v ∧ v ++ ['\n'] <+: u := by
  have hlines := ((indentText_eq_ok_iff hs).1 h).1
  rw [indentText_layout hs, Text.splitLines_append_newline, Outline.allFit_append] at h
  obtain ⟨_, hall, _⟩ := exists_of_map_eq_ok h
  obtain ⟨_, hfit, _⟩ := bind_eq_ok_iff.1 hall
  rw [Text.splitLines_append_newline] at hlines
  have htake := Outline.take_layout_append s (Text.splitLines a) (Text.splitLines b)
  have hrest : (layout s (Text.splitLines a ++ Text.splitLines b)).drop
      (Text.splitLines a).length ≠ [] := by
    apply List.ne_nil_of_length_pos
    rw [List.length_drop, Outline.length_layout, List.length_append, Nat.add_sub_cancel_left]
    exact List.length_pos_iff.2 (Text.splitLines_ne_nil b)
  have hfirst : layout s (Text.splitLines a) ≠ [] := by
    apply List.ne_nil_of_length_pos
    rw [Outline.length_layout]
    exact List.length_pos_iff.2 (Text.splitLines_ne_nil a)
  refine ⟨Text.joinLines (layout s (Text.splitLines a)), by rw [indentText_layout hs, hfit]; rfl, ?_⟩
  have hu := Text.joinLines_append_lines _ _ hfirst hrest
  rw [← htake, List.take_append_drop, ← hlines, Text.joinLines_splitLines] at hu
  rw [hu, hlines, htake]
  exact ⟨_, List.append_assoc ..⟩

/-- Lines that cannot be indented cannot be with others below them. -/
lemma indentText_append_error {f : Fault} (h : indentText settings a = .error f) :
    indentText settings (a ++ '\n' :: b) = .error f := by
  rw [indentText_layout hs] at h ⊢
  rw [Text.splitLines_append_newline, Outline.allFit_append, eq_error_of_map_eq_error h]
  rfl

/-- What passes tell of a text and of its first lines, wherever the cursors are. -/
lemma perform_indentBuffer_append {u : List Char}
    (h : indentText settings (a ++ '\n' :: b) = .ok u) :
    ∃ rs, ∀ c d : Int,
      (perform (.ofText (a ++ '\n' :: b) c) (indentBuffer settings none)).1 = .ok rs ∧
        (perform (.ofText a d) (indentBuffer settings none)).1 =
          .ok (rs.filter fun r => decide (r.line < (Text.splitLines a).length)) := by
  rw [indentText_layout hs, Text.splitLines_append_newline] at h
  obtain ⟨_, hall, _⟩ := exists_of_map_eq_ok h
  refine ⟨Outline.records s (Text.splitLines a ++ Text.splitLines b) 0
    (Text.splitLines a ++ Text.splitLines b).length, fun c d => ⟨?_, ?_⟩⟩
  · rw [perform_indentBuffer_layout hs, Text.splitLines_append_newline, hall]
    rfl
  · rw [Outline.allFit_append] at hall
    obtain ⟨_, hfit, _⟩ := bind_eq_ok_iff.1 hall
    rw [perform_indentBuffer_layout hs, hfit, Outline.filter_records_append]
    rfl

end Text

/-- Placing a line of two pages whose lines are the same as far down as that line. -/
lemma Style.placeLine_congr [Memory] (s : Style) {p q : Page} {i : Nat} (hi : i < p.lines.length)
    (hi' : i < q.lines.length) (h : p.lines.take (i + 1) = q.lines.take (i + 1)) :
    (s.placeLine i p).1 = (s.placeLine i q).1 ∧
      Outline.lineOf (s.placeLine i p).2.lines i = Outline.lineOf (s.placeLine i q).2.lines i := by
  have hline := Outline.lineOf_congr h (Nat.lt_succ_self i)
  have hwrite : ∀ m : Margin, (p.write i m).1 = (q.write i m).1 ∧
      Outline.lineOf (p.write i m).2.lines i = Outline.lineOf (q.write i m).2.lines i := by
    intro m
    have hlength : p.lengthTo i m = q.lengthTo i m := by
      unfold Page.lengthTo
      rw [Outline.take_congr h (Nat.le_succ i), hline]
    unfold Page.write
    rw [hlength]
    cases Memory.check (q.lengthTo i m) with
    | error f => exact ⟨rfl, hline⟩
    | ok u =>
      refine ⟨rfl, ?_⟩
      unfold Page.place
      dsimp only
      rw [lineOf_modify_self _ _ hi, lineOf_modify_self _ _ hi', hline]
  unfold placeLine placeAt
  rw [Outline.level_congr h s (Nat.lt_succ_self i)]
  cases s.margin (s.newIndent (Outline.level s q.lines i)) with
  | error f => exact ⟨rfl, hline⟩
  | ok m => exact ⟨congrArg (Except.map _) (hwrite m).1, (hwrite m).2⟩

/-- What becomes of a line that is indented by itself. -/
lemma perform_indentLine_page [Memory] {settings : Settings} {s : Style}
    (hs : settings.style = .ok s)
    {b : Buffer} (hb : b.Sound) {i : Nat} (hi : i < b.document.lineCount) :
    let done := perform b (indentLine settings none none (some i))
    done.1 = (s.placeLine i b.document.page).1 ∧
      done.2.document.line i = Outline.lineOf (s.placeLine i b.document.page).2.lines i := by
  intro done
  obtain ⟨b', hp, _, hpage⟩ := turns_indentLine hs hb (b.fits_none _) rfl hi
  have hdone : done = _ := hp
  rw [hdone, ← hpage]
  exact ⟨rfl, rfl⟩

/-- A text that can be indented starts, when it is, with its first lines as they are indented by
themselves, and of these the pass tells the same. If the first lines cannot be indented the text
cannot, for the same reason; and a text can be if there is room for an offset for each of its
characters in each line. A single line comes out the same, or fails the same, whatever lines are
below it, in buffers with any history. -/
theorem indent_causal [Memory] (settings : Settings) (s : Style) (hs : settings.style = .ok s) :
    (∀ a b : List Char,
      (∀ u, indentText settings (a ++ '\n' :: b) = .ok u →
        ∃ v rs, indentText settings a = .ok v ∧ v ++ ['\n'] <+: u ∧ ∀ c d : Int,
          (perform (.ofText (a ++ '\n' :: b) c) (indentBuffer settings none)).1 = .ok rs ∧
            (perform (.ofText a d) (indentBuffer settings none)).1 =
              .ok (rs.filter fun r => decide (r.line < (Text.splitLines a).length))) ∧
      (∀ f, indentText settings a = .error f →
        indentText settings (a ++ '\n' :: b) = .error f) ∧
      ((Text.splitLines (a ++ '\n' :: b)).length * (s.offset * (a ++ '\n' :: b).length) +
          (a ++ '\n' :: b).length ≤ Memory.room →
        ∃ u, indentText settings (a ++ '\n' :: b) = .ok u)) ∧
    ∀ (t t' : List Char) (c c' : Int) (calls calls' : List Buffer.Call) (i : Nat),
      let b := (Buffer.ofText t c).after calls
      let b' := (Buffer.ofText t' c').after calls'
      let done := perform b (indentLine settings none none (some i))
      let done' := perform b' (indentLine settings none none (some i))
      i < b.document.lineCount → i < b'.document.lineCount →
      b.document.lines.take (i + 1) = b'.document.lines.take (i + 1) →
      done.1 = done'.1 ∧ done.2.document.line i = done'.2.document.line i := by
  refine ⟨fun a b => ⟨fun u hu => ?_, fun f hf => indentText_append_error hs hf,
    indentText_ok_of_le hs⟩, ?_⟩
  · obtain ⟨v, hv, hprefix⟩ := indentText_append hs hu
    obtain ⟨rs, hrs⟩ := perform_indentBuffer_append hs hu
    exact ⟨v, rs, hv, hprefix, hrs⟩
  · intro t t' c c' calls calls' i b b' done done' hi hi' hlines
    have hb : b.Sound := (Buffer.carries_after (Buffer.sound_ofText t c) calls).1
    have hb' : b'.Sound := (Buffer.carries_after (Buffer.sound_ofText t' c') calls').1
    obtain ⟨hout, hline⟩ := perform_indentLine_page hs hb hi
    obtain ⟨hout', hline'⟩ := perform_indentLine_page hs hb' hi'
    obtain ⟨hsame, hsameLine⟩ :=
      s.placeLine_congr (p := b.document.page) (q := b'.document.page) hi hi' hlines
    exact ⟨hout.trans (hsame.trans hout'.symm), hline.trans (hsameLine.trans hline'.symm)⟩

section Ample

attribute [local instance] Memory.ample

/-- A text with a parenthesis left open before a line feed, and the line after it with other lines
below. -/
theorem indent_causal_open :
    (∃ (u v : List Char) (rs : List Record),
      indentText {} ("select (".toList ++ '\n' :: "x\n)".toList) = .ok u ∧
      indentText {} "select (".toList = .ok v ∧ v ++ ['\n'] <+: u ∧
      (perform (.ofText "select (".toList 0) (indentBuffer {} none)).1 =
        .ok (rs.filter fun r => decide (r.line < 1))) ∧
      (perform (.ofText "a (\nb".toList 0) (indentLine {} none none (some (1 : Nat)))).1 =
        (perform (.ofText "a (\nb\n) \x27".toList 0)
          (indentLine {} none none (some (1 : Nat)))).1 := by
  obtain ⟨hpass, hline⟩ := indent_causal {} _ rfl
  obtain ⟨hok, _, hsmall⟩ := hpass "select (".toList "x\n)".toList
  obtain ⟨u, hu⟩ := hsmall (by decide +kernel)
  obtain ⟨v, rs, hv, hprefix, hrs⟩ := hok u hu
  refine ⟨⟨u, v, rs, hu, hv, hprefix, (hrs 0 0).2⟩, ?_⟩
  exact (hline "a (\nb".toList "a (\nb\n) \x27".toList 0 0 [] [] 1 (by decide +kernel)
    (by decide +kernel) (by decide +kernel)).1

/-- An offset as large as a count of characters: a line that opens a parenthesis can be indented,
and cannot be any more with a line below it. -/
theorem indentText_below_too_wide :
    let settings : Settings := { indentOffset := .int 9223372036854775808 }
    (∃ s, settings.style = .ok s) ∧ indentText settings "a (".toList = .ok "a (".toList ∧
      indentText settings ("a (".toList ++ '\n' :: "b".toList) = .error .countTooLarge := by
  refine ⟨⟨_, rfl⟩, ?_, ?_⟩
  · decide +kernel
  · decide +kernel

end Ample
end SqlMargin
