import SqlMargin.Proofs.Indent.Page

/-! The pass as a function of pages. A pass over a buffer does to its page what placing line after
line by outlines does, with whichever classifier it reads and however it keeps the line above. -/
namespace SqlMargin
open Edit (Turns Answers perform)
open Outline (lineOf above?)

namespace Style

/-- Line `i` of a page, placed at a level. -/
def placeAt [Memory] (s : Style) (level : Level Int) (i : Nat) (p : Page) :
    Except Fault Record × Page :=
  match s.margin (s.newIndent level) with
  | .error f => (.error f, p)
  | .ok m =>
    ((p.write i m).1.map fun _ => ⟨i, level.delta, level.previousIndent, s.newIndent level⟩,
      (p.write i m).2)

/-- Line `i` of a page, placed where its outline tells. -/
def placeLine [Memory] (s : Style) (i : Nat) (p : Page) : Except Fault Record × Page :=
  s.placeAt (Outline.level s p.lines i) i p

/-- Line `i` of a page in a pass, which tells nothing of blank lines that it empties. -/
def placeNext [Memory] (s : Style) (i : Nat) (p : Page) : Except Fault (List Record) × Page :=
  if Text.allBlank (lineOf p.lines i) && !s.blankLines then
    ((p.write i .empty).1.map fun _ => [], (p.write i .empty).2)
  else ((s.placeLine i p).1.map ([·]), (s.placeLine i p).2)

/-- `n` lines of a page from line `i` on, one after another. -/
def placeFrom [Memory] (s : Style) : Nat → Nat → Page → Except Fault (List Record) × Page
  | 0, _, p => (.ok [], p)
  | n + 1, i, p =>
    match s.placeNext i p with
    | (.error f, q) => (.error f, q)
    | (.ok rs, q) =>
      let rest := s.placeFrom n (i + 1) q
      (rest.1.map (rs ++ ·), rest.2)

end Style

variable {b : Buffer} {p : Page} {s : Style} {i : Nat}

namespace Style

lemma turns_report (hp : b.document.page = p) (s : Style) (m : Diagnostic) :
    Turns b (s.report m) (.ok ⟨⟩, p) := by
  unfold report
  split
  · subst hp
    exact .modify ⟨rfl, rfl, fun h => ⟨h.below, h.coherent⟩⟩
  · exact .pure hp _

lemma turns_passed (hp : b.document.page = p) (hi : i < p.lines.length)
    (given : Option (Previous Int)) (indent : Nat) :
    Turns b (passed given i indent)
      (.ok (if Text.allBlank (lineOf p.lines i) then given
        else some ⟨(Text.extent (p.lines.take i) : Nat), indent⟩), p) := by
  refine (Turns.document hp).bind fun b₁ _ h₁ => ?_
  have hblank : b.document.isBlank i = Text.allBlank (lineOf p.lines i) := by
    subst hp
    rfl
  rw [hblank]
  split
  · exact .pure h₁ _
  · exact (Edit.turns_lineStart h₁ hi).bind fun b₂ _ h₂ => .pure h₂ _

end Style

lemma allBlank_place (m : Margin) (l : List Char) :
    Text.allBlank (m.chars ++ contentOf l) = Text.allBlank l := by
  rw [Text.allBlank_append, Text.allBlank_of_isIndent m.all_isIndent, Text.allBlank_contentOf,
    Bool.true_and]

lemma allBlank_lineOf_place (hi : i < p.lines.length) (m : Margin) :
    Text.allBlank (lineOf (p.place i m).lines i) = Text.allBlank (lineOf p.lines i) := by
  have hline := lineOf_modify_self p.lines (fun l => m.chars ++ contentOf l) hi
  rw [← allBlank_place m (lineOf p.lines i), ← hline]
  rfl

/-- A blank line that is placed leaves the line above to the next line. -/
lemma Settled.blank {ls : List (List Char)} {given : Option (Previous Int)}
    (h : Settled s ls i given) (hi : i < ls.length) (hb : Text.allBlank (lineOf ls i) = true)
    (m : Margin) :
    Settled s (ls.modify i fun l => m.chars ++ contentOf l) (i + 1) given := by
  intro above hab
  obtain ⟨j, hj, rfl⟩ := h above hab
  have hlt := (Outline.above?_spec ls hj).1
  have htake := take_modify_self ls (fun l => m.chars ++ contentOf l) i
  have hstart : (ls.modify i fun l => m.chars ++ contentOf l).take j = ls.take j := by
    have ht := congrArg (List.take j) htake
    rwa [List.take_take, List.take_take, Nat.min_eq_left (Nat.le_of_lt hlt)] at ht
  refine ⟨j, ?_, ?_⟩
  · rw [Outline.above?_succ, lineOf_modify_self _ _ hi, allBlank_place, if_pos hb,
      Outline.above?_congr htake, hj]
  · rw [hstart, Outline.lineOf_congr htake hlt]

variable [Memory]

namespace Style

/-- A line is placed, or there is no room for it and the page stays. -/
lemma placeAt_cases (s : Style) (level : Level Int) (i : Nat) (p : Page) :
    (∃ f, f.TooLarge ∧ Memory.room < p.lengthTo i (s.render (s.newIndent level)) ∧
        s.placeAt level i p = (.error f, p)) ∨
      ∃ m, s.margin (s.newIndent level) = .ok m ∧ p.lengthTo i m ≤ Memory.room ∧
        s.placeAt level i p =
          (.ok ⟨i, level.delta, level.previousIndent, s.newIndent level⟩, p.place i m) := by
  unfold placeAt
  cases hm : s.margin (s.newIndent level) with
  | error f =>
    refine .inl ⟨f, margin_eq_error hm, ?_, rfl⟩
    by_contra hroom
    have hwide : (s.render (s.newIndent level)).chars.length ≤ Memory.room := by
      unfold Page.lengthTo at hroom
      omega
    rw [margin_of_le hwide] at hm
    cases hm
  | ok m =>
    dsimp only
    rcases p.write_cases i m with ⟨f, hf, hroom, hw⟩ | ⟨hroom, hw⟩
    · rw [hw]
      exact .inl ⟨f, hf, eq_render hm ▸ hroom, rfl⟩
    · rw [hw]
      exact .inr ⟨m, rfl, hroom, rfl⟩

lemma placeLine_cases (s : Style) (i : Nat) (p : Page) :
    (∃ f, f.TooLarge ∧ s.placeLine i p = (.error f, p)) ∨
      ∃ r m, s.margin r.newIndent = .ok m ∧ s.placeLine i p = (.ok r, p.place i m) := by
  unfold placeLine
  generalize Outline.level s p.lines i = level
  rcases s.placeAt_cases level i p with ⟨f, hf, _, h⟩ | ⟨m, hm, _, h⟩
  · exact .inl ⟨f, hf, h⟩
  · exact .inr ⟨⟨i, level.delta, level.previousIndent, s.newIndent level⟩, m, hm, h⟩

/-- A line is passed, or there is no room for it and the page stays. -/
lemma placeNext_cases (s : Style) (i : Nat) (p : Page) :
    (∃ f, f.TooLarge ∧ s.placeNext i p = (.error f, p)) ∨
      ∃ rs m, s.placeNext i p = (.ok rs, p.place i m) := by
  unfold placeNext
  split
  · rcases p.write_cases i .empty with ⟨f, hf, _, hw⟩ | ⟨_, hw⟩
    · rw [hw]
      exact .inl ⟨f, hf, rfl⟩
    · rw [hw]
      exact .inr ⟨_, _, rfl⟩
  · rcases s.placeLine_cases i p with ⟨f, hf, hl⟩ | ⟨r, m, _, hl⟩
    · rw [hl]
      exact .inl ⟨f, hf, rfl⟩
    · rw [hl]
      exact .inr ⟨_, _, rfl⟩

/-- Once its level is known, a line is placed. -/
lemma turns_placeAt (hp : b.document.page = p) (hi : i < p.lines.length) (s : Style)
    (level : Level Int) :
    Turns b (do
        let margin ← (s.margin (s.newIndent level) : Except Fault Margin)
        Edit.setMargin i margin
        s.report (.lineIndented (i + 1) level.delta level.previousIndent (s.newIndent level))
        pure ⟨i, level.delta, level.previousIndent, s.newIndent level⟩)
      (s.placeAt level i p) := by
  unfold placeAt
  cases s.margin (s.newIndent level) with
  | error f => exact (Turns.lift hp (.error f)).bind_error _
  | ok m =>
    refine (Turns.lift hp (.ok m)).bind fun b₁ _ h₁ => ?_
    subst h₁
    dsimp only
    have hset := Edit.turns_setMargin (b := b₁) hi m
    rcases Page.write_cases b₁.document.page i m with ⟨f, _, _, hw⟩ | ⟨_, hw⟩
    · rw [hw] at hset ⊢
      exact hset.bind_error _
    · rw [hw] at hset ⊢
      refine hset.bind fun b₂ _ h₂ => ?_
      exact (turns_report h₂ s _).bind fun b₃ _ h₃ => .pure h₃ _

/-- Indenting a line of a buffer places it at the level that is worked out for it. -/
lemma turns_indentLine_at {lexer : Option Lexer} {given : Option (Previous Int)}
    {level : Level Int} (hp : b.document.page = p) (hi : i < p.lines.length)
    (hlevel : ∀ b', b.Evolves b' → b'.document.page = p →
      Turns b' (levelAt s.reading lexer given (Text.extent (p.lines.take i) : Nat))
        (.ok level, p)) :
    Turns b (s.indentLine lexer given i) (s.placeAt level i p) :=
  (Edit.turns_lineStart hp hi).bind fun b₁ e₁ h₁ =>
    (hlevel b₁ e₁ h₁).bind fun _ _ h₂ => turns_placeAt h₂ hi s level

/-- The level is the one that the outline tells, if it is counted from the line above. -/
theorem turns_indentLine (hs : b.Sound) {lexer : Option Lexer} (hf : b.Fits s.escapes lexer)
    (hp : b.document.page = p) (hi : i < p.lines.length) {given : Option (Previous Int)}
    (hg : Settled s p.lines i given) :
    Turns b (s.indentLine lexer given i) (s.placeLine i p) := by
  refine turns_indentLine_at hp hi fun b' e h => ?_
  subst h
  exact (answers_levelAt s (e.sound hs) (hf.evolves e) hi hg).turns

end Style

/-- A line that is placed and not blank is the line above the next line. -/
lemma settled_place {ls : List (List Char)} (hi : i < ls.length)
    (hb : Text.allBlank (lineOf ls i) = false) {n : Nat} {m : Margin} (hm : s.margin n = .ok m) :
    Settled s (ls.modify i fun l => m.chars ++ contentOf l) (i + 1)
      (some ⟨(Text.extent ((ls.modify i fun l => m.chars ++ contentOf l).take i) : Nat), n⟩) := by
  intro above hab
  cases hab
  have hline := lineOf_modify_self ls (fun l => m.chars ++ contentOf l) hi
  refine ⟨i, ?_, ?_⟩
  · rw [Outline.above?_succ, hline, allBlank_place, hb]
    rfl
  · rw [hline, columns_margin hm]

/-- What the pass takes on as the line above, once line `i` is placed. -/
lemma Settled.next {given : Option (Previous Int)} (h : Settled s p.lines i given)
    (hi : i < p.lines.length) {n : Nat} {m : Margin} (hm : s.margin n = .ok m) :
    Settled s (p.place i m).lines (i + 1)
      (if Text.allBlank (lineOf (p.place i m).lines i) then given
        else some ⟨(Text.extent ((p.place i m).lines.take i) : Nat), n⟩) := by
  rw [allBlank_lineOf_place hi]
  cases hb : Text.allBlank (lineOf p.lines i) with
  | true => exact h.blank hi hb m
  | false => exact settled_place hi hb hm

namespace Style

/-- The pass keeps the line above that would be found, and places line after line. -/
theorem turns_indentFrom {k : Nat} (n : Nat) (hk : b.Serves k s.escapes)
    (hp : b.document.page = p) (hn : i + n = p.lines.length) {given : Option (Previous Int)}
    (hg : Settled s p.lines i given) :
    Turns b (s.indentFrom (.classifier k) n i given) (s.placeFrom n i p) := by
  -- What is carried from line to line: the classifier is in service and the line above is settled.
  induction n generalizing b i p given with
  | zero => exact .pure hp _
  | succ n ih =>
    have hi : i < p.lines.length := by omega
    have hblank : b.document.isBlank i = Text.allBlank (lineOf p.lines i) := by
      subst hp
      rfl
    refine (Turns.document hp).bind fun b₁ e₁ h₁ => ?_
    have hk₁ := hk.evolves e₁
    rw [hblank, placeFrom, placeNext]
    by_cases hb : (Text.allBlank (lineOf p.lines i) && !s.blankLines) = true
    · rw [if_pos hb, if_pos hb]
      rw [Bool.and_eq_true] at hb
      have hset : Turns b₁ (Edit.setMargin i .empty) (p.write i .empty) := by
        subst h₁
        exact Edit.turns_setMargin hi .empty
      rcases p.write_cases i .empty with ⟨f, _, _, hw⟩ | ⟨_, hw⟩
      · rw [hw] at hset ⊢
        exact hset.bind_error _
      · rw [hw] at hset ⊢
        refine hset.bind fun b₂ e₂ h₂ => ?_
        have hrest := ih (hk₁.evolves e₂) h₂ (by rw [Page.length_place]; omega)
          (hg.blank hi hb.1 .empty)
        have hid : (s.placeFrom n (i + 1) (p.place i .empty)).1.map ([] ++ ·) =
            (s.placeFrom n (i + 1) (p.place i .empty)).1 := congrFun Except.map_id _
        dsimp only [Except.map] at hid ⊢
        rwa [hid]
    · rw [if_neg hb, if_neg hb]
      have hfits : b₁.Fits s.escapes (some (.classifier k)) := fun l hl =>
        ⟨k, (Option.some.inj hl).symm, hk₁⟩
      have hline := turns_indentLine hk₁.sound hfits h₁ hi hg
      rcases s.placeLine_cases i p with ⟨f, _, hl⟩ | ⟨r, m, hm, hl⟩
      · rw [hl] at hline ⊢
        exact hline.bind_error _
      · rw [hl] at hline ⊢
        refine hline.bind fun b₂ e₂ h₂ => ?_
        have hpassed := turns_passed h₂ (by rwa [Page.length_place]) given r.newIndent
        refine hpassed.bind fun b₃ e₃ h₃ => Turns.map _ ?_
        apply ih ((hk₁.evolves e₂).evolves e₃) h₃ _ (hg.next hi hm)
        rw [Page.length_place]
        omega

/-- A pass over a whole buffer. -/
theorem turns_indentBuffer (hs : b.Sound) {lexer : Option Lexer} (hf : b.Fits s.escapes lexer)
    (hp : b.document.page = p) :
    Turns b (s.indentBuffer lexer) (s.placeFrom p.lines.length 0 p) := by
  have hfrom : ∀ {b' : Buffer} {k : Nat}, b'.Serves k s.escapes → b'.document.page = p →
      Turns b' (do s.indentFrom (.classifier k) (← Edit.document).lineCount 0 none)
        (s.placeFrom p.lines.length 0 p) := by
    intro b' k hk hp'
    refine (Turns.document hp').bind fun b₁ e₁ h₁ => ?_
    have hcount : b'.document.lineCount = p.lines.length := by
      subst hp'
      rfl
    rw [hcount]
    exact turns_indentFrom _ (hk.evolves e₁) h₁ (Nat.zero_add _) fun above hab => nomatch hab
  cases lexer with
  | some l =>
    obtain ⟨k, rfl, hk⟩ := hf l rfl
    exact hfrom hk hp
  | none =>
    obtain ⟨b', hr, he, hpage⟩ := hfrom (hs.serves_openClassifier s.escapes) hp
    refine ⟨b'.dropClassifier b.classifiers.length, ?_, he.dropClassifier hs.below, hpage⟩
    unfold indentBuffer
    rw [Lexer.perform_during_none, hr]

end Style

/-- A pass with settings that have a style. -/
theorem turns_indentBuffer {settings : Settings} (hstyle : settings.style = .ok s) (hs : b.Sound)
    {lexer : Option Lexer} (hf : b.Fits s.escapes lexer) (hp : b.document.page = p) :
    Turns b (indentBuffer settings lexer) (s.placeFrom p.lines.length 0 p) := by
  unfold indentBuffer
  rw [hstyle]
  refine (Turns.lift hp (.ok s)).bind fun b₁ e₁ h₁ => ?_
  exact Style.turns_indentBuffer (e₁.sound hs) (hf.evolves e₁) h₁

end SqlMargin
