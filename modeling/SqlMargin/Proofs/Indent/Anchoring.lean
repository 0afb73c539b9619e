import SqlMargin.Proofs.Indent.Contents

/-! The cursor while lines get their margins. It keeps its line; past the margin it stays on its
character, and within the margin it goes to the margin's end. None of this hangs on what a lexer
says or on the line above: whatever they are, a line gets some margin or the work fails. -/
namespace SqlMargin
open Edit (Keeps perform)
open Outline (lineOf)

/-- The cursor stands in column `c` of line `i`. -/
structure Page.At (p : Page) (i c : Nat) : Prop where
  line_lt : i < p.lines.length
  column_le : c ≤ (lineOf p.lines i).length
  cursor_eq : p.cursor = Text.extent (p.lines.take i) + c

/-- The cursor stands in line `i`, `x` characters past the end of its margin. -/
def Page.Past (p : Page) (i : Nat) (x : Int) : Prop :=
  ∃ c : Nat, p.At i c ∧ (c : Int) - (marginOf (lineOf p.lines i)).length = x

lemma lineOf_modify_of_ne (ls : List (List Char)) (f : List Char → List Char) {i j : Nat}
    (h : i ≠ j) : lineOf (ls.modify i f) j = lineOf ls j := by
  simp [lineOf, h]

lemma extent_take_modify (ls : List (List Char)) (f : List Char → List Char) {i j : Nat}
    (hij : i < j) (hj : j ≤ ls.length) :
    Text.extent ((ls.modify i f).take j) + (lineOf ls i).length =
      Text.extent (ls.take j) + (f (lineOf ls i)).length := by
  have hlt : i < (ls.take j).length := by
    rw [List.length_take]
    omega
  have hm := extent_modify (ls.take j) f hlt
  have hline : lineOf (ls.take j) i = lineOf ls i := by
    rw [lineOf, List.getElem?_take_of_lt hij, lineOf]
  rwa [hline, ← List.take_modify] at hm

section Place

variable {p : Page} {i j c : Nat} {m : Margin}

lemma length_placedLine (l : List Char) :
    (m.chars ++ contentOf l).length + (marginOf l).length = m.chars.length + l.length := by
  have hparts := congrArg List.length (marginOf_append_contentOf l)
  rw [List.length_append] at hparts ⊢
  omega

/-- The line of the cursor gets a margin. -/
lemma Page.At.place_self (h : p.At i c) (m : Margin) :
    (p.place i m).At i (m.chars.length + (c - (marginOf (lineOf p.lines i)).length)) := by
  obtain ⟨hi, hc, hcur⟩ := h
  have hline := lineOf_modify_self p.lines (fun l => m.chars ++ contentOf l) hi
  have hlen := length_placedLine (m := m) (lineOf p.lines i)
  have hle : (marginOf (lineOf p.lines i)).length ≤ (lineOf p.lines i).length :=
    (List.takeWhile_prefix _).length_le
  refine ⟨by rwa [Page.length_place], ?_, ?_⟩
  · change _ ≤ (lineOf (p.lines.modify i fun l => m.chars ++ contentOf l) i).length
    rw [hline]
    omega
  · have hall := Text.extent_eq (p.lines.modify i fun l => m.chars ++ contentOf l) i
      (by rwa [List.length_modify])
    rw [take_modify_self] at hall
    change Text.extent _ = _ + (lineOf _ i).length + 1 + _ at hall
    rw [hline] at hall
    unfold Page.place
    dsimp only
    rw [take_modify_self, hcur, if_neg (by omega)]
    split
    · omega
    · rw [Nat.min_eq_left (by omega)]
      omega

/-- Another line than that of the cursor gets a margin. -/
lemma Page.At.place_of_ne (h : p.At j c) (hij : i ≠ j) (hi : i < p.lines.length) (m : Margin) :
    (p.place i m).At j c := by
  obtain ⟨hj, hc, hcur⟩ := h
  have hline := lineOf_modify_of_ne p.lines (fun l => m.chars ++ contentOf l) hij
  have hnext : ∀ k < p.lines.length,
      Text.extent (p.lines.take (k + 1)) = Text.extent (p.lines.take k) +
        (lineOf p.lines k).length + 1 := fun k hk => Text.extent_take_succ p.lines k hk
  refine ⟨by rwa [Page.length_place], ?_, ?_⟩
  · change _ ≤ (lineOf (p.lines.modify i fun l => m.chars ++ contentOf l) j).length
    rwa [hline]
  · unfold Page.place
    dsimp only
    rcases Nat.lt_or_gt_of_ne hij with hlt | hgt
    · -- The line stands above the cursor, so all that follows its margin moves.
      have hmono := Text.extent_take_mono p.lines (i := i + 1) (j := j) hlt
      have hstep := hnext i hi
      have hlen := length_placedLine (m := m) (lineOf p.lines i)
      have hle : (marginOf (lineOf p.lines i)).length ≤ (lineOf p.lines i).length :=
        (List.takeWhile_prefix _).length_le
      have hmove := extent_take_modify p.lines (fun l => m.chars ++ contentOf l) hlt
        (Nat.le_of_lt hj)
      have hall := Text.extent_eq (p.lines.modify i fun l => m.chars ++ contentOf l) j
        (by rwa [List.length_modify])
      change Text.extent _ = _ + (lineOf _ j).length + 1 + _ at hall
      rw [hline] at hall
      rw [hcur, if_neg (by omega), if_neg (by omega), Nat.min_eq_left (by omega)]
      omega
    · -- The line stands below the cursor, which does not move.
      have hmono := Text.extent_take_mono p.lines (i := j + 1) (j := i) hgt
      have hstep := hnext j hj
      have htake : (p.lines.modify i fun l => m.chars ++ contentOf l).take j = p.lines.take j := by
        rw [List.take_modify, List.modify_eq_self]
        rw [List.length_take]
        omega
      rw [htake, hcur, if_pos (by omega)]

lemma Page.Past.place {x : Int} (h : p.Past j x) (hi : i < p.lines.length) (m : Margin) :
    (p.place i m).Past j (if j = i then max 0 x else x) := by
  obtain ⟨c, hat, rfl⟩ := h
  split
  · next hij =>
    subst hij
    refine ⟨_, hat.place_self m, ?_⟩
    have hline := lineOf_modify_self p.lines (fun l => m.chars ++ contentOf l) hi
    change _ - ((marginOf (lineOf (p.lines.modify j _) j)).length : Int) = _
    rw [hline, m.marginOf_append, marginOf_contentOf, List.append_nil]
    omega
  · next hij =>
    refine ⟨c, hat.place_of_ne (Ne.symm hij) hi m, ?_⟩
    change _ - ((marginOf (lineOf (p.lines.modify i _) j)).length : Int) = _
    rw [lineOf_modify_of_ne _ _ (Ne.symm hij)]

end Place

/-! Work on any buffer, with any lexer. -/

/-- The buffer shows page `p`. -/
def Buffer.On (p : Page) (b : Buffer) : Prop := b.document.page = p

section Page

variable {α : Type} {p : Page} {b : Buffer}

/-- Work that only reads stays on the page. -/
lemma Edit.Keeps.page {work : Edit α} (h : ∀ b₀ : Buffer, Keeps b₀.Reads work) :
    Keeps (Buffer.On p) work := by
  intro b hb
  have hr := h b b (.refl b)
  exact (congrArg₂ Page.mk hr.lines hr.cursor).trans hb

lemma Lexer.keeps_page_during (given : Option Lexer) (e : Bool) {work : Lexer → Edit α}
    (h : ∀ l, Keeps (Buffer.On p) (work l)) : Keeps (Buffer.On p) (during given e work) := by
  cases given with
  | some l => exact h l
  | none => exact fun b hb => h (.classifier b.classifiers.length) (b.openClassifier e) hb

lemma keeps_page_levelAt (r : Reading α) (lexer : Option Lexer) (previous : Option (Previous α))
    (n : Int) : Keeps (Buffer.On p) (levelAt r lexer previous n) := by
  refine (Keeps.page fun _ => Edit.keeps_lineAt n).bind fun i => ?_
  refine (Keeps.page fun _ => Edit.keeps_lineStart i).bind fun start => ?_
  refine Lexer.keeps_page_during lexer _ fun l => ?_
  exact (Keeps.page fun _ => keeps_givenOrAbove _ previous _).bind fun above =>
    Keeps.page fun _ => l.keeps_levelFrom _ above i start

lemma Buffer.On.turns_setMargin [Memory] {i : Nat} (hb : b.On p) (hi : i < p.lines.length)
    (m : Margin) :
    Edit.Turns b (Edit.setMargin i m) (p.write i m) := by
  have hpage : b.document.page = p := hb
  subst hpage
  exact Edit.turns_setMargin hi m

/-- One line, whatever is said about it: it gets some margin, or the work fails and the page
stays. -/
theorem Style.perform_indentLine_cases [Memory] (s : Style) (lexer : Option Lexer)
    (previous : Option (Previous Int)) {i : Nat} (hb : b.On p) (hi : i < p.lines.length) :
    (∃ f b', perform b (s.indentLine lexer previous i) = (.error f, b') ∧ b'.On p) ∨
      ∃ r m b', perform b (s.indentLine lexer previous i) = (.ok r, b') ∧ b'.On (p.place i m) := by
  obtain ⟨b₁, hstart, _, h₁⟩ := Edit.turns_lineStart hb hi
  unfold Style.indentLine
  rw [Edit.perform_bind_ok hstart]
  have h₂ := keeps_page_levelAt (p := p) s.reading lexer previous
    (Text.extent (p.lines.take i) : Nat) b₁ h₁
  rcases hlevel : perform b₁ (levelAt s.reading lexer previous
    (Text.extent (p.lines.take i) : Nat)) with ⟨f | level, b₂⟩
  all_goals rw [hlevel] at h₂
  · exact .inl ⟨f, b₂, Edit.perform_bind_error hlevel _, h₂⟩
  · rw [Edit.perform_bind_ok hlevel]
    obtain ⟨b₃, hplace, _, h₃⟩ := Style.turns_placeAt h₂ hi s level
    rcases s.placeAt_cases level i p with ⟨f, _, _, hcase⟩ | ⟨m, _, _, hcase⟩
    · rw [hcase] at hplace h₃
      exact .inl ⟨f, b₃, hplace, h₃⟩
    · rw [hcase] at hplace h₃
      exact .inr ⟨_, m, b₃, hplace, h₃⟩

/-- What work leaves of a page: the contents of its lines, and the cursor in line `j`, which stands
`x` characters past the margin if the work succeeds. -/
structure Page.Leaves (p : Page) (j : Nat) (x : Int) (done : Except Fault α × Buffer) : Prop where
  contents : done.2.document.page.lines.map contentOf = p.lines.map contentOf
  past : ∃ y, done.2.document.page.Past j y ∧ ∀ a, done.1 = .ok a → y = x

namespace Page.Leaves

variable {β : Type} {i j : Nat} {x y : Int}

lemma of_on {r : Except Fault α} (hb : b.On p) (hx : p.Past j x) (h : ∀ a, r = .ok a → x = y) :
    p.Leaves j y (r, b) := by
  have hpage : b.document.page = p := hb
  subst hpage
  exact ⟨rfl, x, hx, h⟩

lemma of_place {m : Margin} {done : Except Fault α × Buffer} (h : (p.place i m).Leaves j x done) :
    p.Leaves j x done := ⟨h.contents.trans (contents_place ..), h.past⟩

lemma map {work : Edit α} (f : α → β) (h : p.Leaves j x (perform b work)) :
    p.Leaves j x (perform b (do return f (← work))) := by
  obtain ⟨hcontents, y, hy, hok⟩ := h
  rcases hp : perform b work with ⟨e | a, b'⟩
  all_goals rw [hp] at hcontents hy hok
  · rw [Edit.perform_bind_error hp]
    exact ⟨hcontents, y, hy, fun _ ha => nomatch ha⟩
  · rw [Edit.perform_bind_ok hp]
    exact ⟨hcontents, y, hy, fun _ _ => hok a rfl⟩

end Page.Leaves

/-- A pass from line `i` on: lines that it goes through move the cursor out of their margins. -/
theorem Style.indentFrom_leaves [Memory] (s : Style) (l : Lexer) (n i : Nat)
    (previous : Option (Previous Int)) {j : Nat} {x : Int} (hb : b.On p)
    (hn : i + n = p.lines.length) (hx : p.Past j x) :
    p.Leaves j (if j < i then x else max 0 x) (perform b (s.indentFrom l n i previous)) := by
  induction n generalizing b i p x previous with
  | zero =>
    obtain ⟨c, hat, _⟩ := id hx
    have hj := hat.line_lt
    exact .of_on hb hx fun _ _ => by rw [if_pos (by omega)]
  | succ n ih =>
    have hi : i < p.lines.length := by omega
    -- What the rest of the pass does once line `i` has its margin.
    have hrest : ∀ {b' : Buffer} {m : Margin} (given : Option (Previous Int)), b'.On (p.place i m) →
        p.Leaves j (if j < i then x else max 0 x)
          (perform b' (s.indentFrom l n (i + 1) given)) := by
      intro b' m given hb'
      have hlen : i + 1 + n = (p.place i m).lines.length := by
        rw [Page.length_place]
        omega
      have hleaves := ih (i + 1) given hb' hlen (hx.place hi m)
      have hy : (if j < i + 1 then if j = i then max 0 x else x
          else max 0 (if j = i then max 0 x else x)) = if j < i then x else max 0 x := by
        split_ifs <;> omega
      rw [hy] at hleaves
      exact hleaves.of_place
    change p.Leaves j _ (perform b (if b.document.isBlank i && !s.blankLines then do
        Edit.setMargin i .empty
        s.indentFrom l n (i + 1) previous
      else do
        let record ← s.indentLine (some l) previous i
        return record :: (← s.indentFrom l n (i + 1) (← passed previous i record.newIndent))))
    by_cases hblank : (b.document.isBlank i && !s.blankLines) = true
    · obtain ⟨b₁, hset, _, h₁⟩ := Buffer.On.turns_setMargin hb hi .empty
      rw [if_pos hblank]
      rcases p.write_cases i .empty with ⟨f, _, _, hw⟩ | ⟨_, hw⟩
      · rw [hw] at hset h₁
        rw [Edit.perform_bind_error hset]
        exact .of_on h₁ hx fun _ ha => nomatch ha
      · rw [hw] at hset h₁
        rw [Edit.perform_bind_ok hset]
        exact hrest previous h₁
    · rw [if_neg hblank]
      rcases s.perform_indentLine_cases (some l) previous hb hi with
        ⟨f, b₁, hline, h₁⟩ | ⟨r, m, b₁, hline, h₁⟩
      · rw [Edit.perform_bind_error hline]
        exact .of_on h₁ hx fun _ ha => nomatch ha
      · obtain ⟨b₂, hpassed, _, h₂⟩ := turns_passed h₁ (by rwa [Page.length_place]) previous
          r.newIndent
        rw [Edit.perform_bind_ok hline, Edit.perform_bind_ok hpassed]
        exact (hrest _ h₂).map (r :: ·)

/-- A pass over the whole buffer. -/
lemma Style.indentBuffer_leaves [Memory] (s : Style) (lexer : Option Lexer) {j : Nat} {x : Int}
    (hb : b.On p)
    (hx : p.Past j x) : p.Leaves j (max 0 x) (perform b (s.indentBuffer lexer)) := by
  have hfrom : ∀ {b' : Buffer} (l : Lexer), b'.On p →
      p.Leaves j (max 0 x) (perform b' (do s.indentFrom l (← Edit.document).lineCount 0 none)) := by
    intro b' l hb'
    have hcount : b'.document.lineCount = p.lines.length := congrArg (·.lines.length) hb'
    rw [Edit.perform_bind_ok (Edit.perform_document b'), hcount]
    exact s.indentFrom_leaves l p.lines.length 0 none hb' (Nat.zero_add _) hx
  cases lexer with
  | some l => exact hfrom l hb
  | none =>
    -- Opening a classifier for the pass and taking it away again leave the page.
    have hopen : (b.openClassifier s.escapes).On p := hb
    have h := hfrom (.classifier b.classifiers.length) hopen
    unfold Style.indentBuffer
    rw [Lexer.perform_during_none]
    exact ⟨h.contents, h.past⟩

end Page

namespace Document

/-- Column of the cursor in its line. -/
def column (d : Document) : Nat := d.cursor - d.lineStart d.cursorLine

/-- How far the cursor stands past the margin of its line; below zero within the margin. -/
def pastMargin (d : Document) : Int := d.cursor - d.marginEnd d.cursorLine

variable {d : Document}

/-- A cursor in the text stands in some column of some line. -/
lemma page_at (h : d.cursor ≤ d.length) : d.page.At d.cursorLine d.column := by
  obtain ⟨hlt, hl, hr⟩ := d.lineAt_spec d.cursor
  have hclamp : d.clamp d.cursor = d.cursor := by
    rw [clamp, Int.toNat_natCast]
    exact Nat.min_eq_left h
  rw [hclamp] at hl hr
  have hstart := d.lineStart_eq _ hlt
  refine ⟨hlt, ?_, ?_⟩
  · change d.column ≤ (d.line (d.lineAt d.cursor)).length
    unfold column cursorLine
    omega
  · change d.cursor = Text.extent (d.lines.take (d.lineAt d.cursor)) + d.column
    unfold column cursorLine
    omega

/-- The line and the column in which the cursor stands are the ones that are found for it. -/
lemma of_page_at {i c : Nat} (h : d.page.At i c) :
    d.cursorLine = i ∧ d.column = c ∧ d.cursor ≤ d.length := by
  obtain ⟨hi, hc, hcur⟩ := h
  change i < d.lineCount at hi
  change c ≤ (d.line i).length at hc
  change d.cursor = Text.extent (d.lines.take i) + c at hcur
  have hline : d.cursorLine = i := by
    rw [cursorLine, hcur]
    exact d.lineAt_column i c hi hc
  have hlen := d.length_eq i hi
  have hstart := d.lineStart_eq i hi
  refine ⟨hline, ?_, by omega⟩
  rw [column, hline]
  omega

lemma page_past (h : d.cursor ≤ d.length) : d.page.Past d.cursorLine d.pastMargin := by
  have hat := page_at h
  have hcur := hat.cursor_eq
  have hstart := d.lineStart_eq _ hat.line_lt
  refine ⟨d.column, hat, ?_⟩
  change d.cursor = Text.extent (d.lines.take d.cursorLine) + d.column at hcur
  change (d.column : Int) - (d.margin d.cursorLine).length = _
  unfold pastMargin marginEnd
  omega

lemma of_page_past {i : Nat} {x : Int} (h : d.page.Past i x) :
    d.cursorLine = i ∧ d.pastMargin = x ∧ d.cursor ≤ d.length := by
  obtain ⟨c, hat, hx⟩ := h
  obtain ⟨hline, hcolumn, hle⟩ := of_page_at hat
  have hcur := hat.cursor_eq
  have hstart := d.lineStart_eq i hat.line_lt
  refine ⟨hline, ?_, hle⟩
  change d.cursor = Text.extent (d.lines.take i) + c at hcur
  change (c : Int) - (d.margin i).length = x at hx
  unfold pastMargin marginEnd
  rw [hline]
  omega

end Document

/-- What indenting one line leaves: the other lines, what follows the margin of the line, and the
cursor on its text. -/
structure Document.Anchors (d d' : Document) (i : Nat) : Prop where
  lineCount : d'.lineCount = d.lineCount
  content : contentOf (d'.line i) = contentOf (d.line i)
  others : ∀ j ≠ i, d'.line j = d.line j
  cursorLine : d'.cursorLine = d.cursorLine
  column : d.cursorLine ≠ i → d'.column = d.column
  cursor_le : d'.cursor ≤ d'.length

namespace Document.Anchors

variable {d d' : Document} {i : Nat}

lemma of_page_eq (hc : d.cursor ≤ d.length) (h : d'.page = d.page) : d.Anchors d' i := by
  have hat := page_at hc
  rw [← h] at hat
  obtain ⟨hline, hcolumn, hle⟩ := of_page_at hat
  have hlines : ∀ j, d'.line j = d.line j := fun j =>
    congrArg (fun q : Page => lineOf q.lines j) h
  exact ⟨congrArg (·.lines.length) h, congrArg contentOf (hlines i), fun j _ => hlines j, hline,
    fun _ => hcolumn, hle⟩

lemma of_page_place (hc : d.cursor ≤ d.length) (hi : i < d.lineCount) {m : Margin}
    (h : d'.page = d.page.place i m) :
    d.Anchors d' i ∧ (d.cursorLine = i → d'.pastMargin = max 0 d.pastMargin) := by
  have hpast := (page_past hc).place hi m
  rw [← h] at hpast
  obtain ⟨hline, hx, hle⟩ := of_page_past hpast
  have hlines : ∀ j, d'.line j = lineOf (d.lines.modify i fun l => m.chars ++ contentOf l) j :=
    fun j => congrArg (fun q : Page => lineOf q.lines j) h
  refine ⟨⟨?_, ?_, fun j hj => ?_, hline, fun hne => ?_, hle⟩, fun heq => by rw [hx, if_pos heq]⟩
  · exact (congrArg (·.lines.length) h).trans (Page.length_place ..)
  · rw [hlines, lineOf_modify_self _ _ hi, m.contentOf_append, contentOf_contentOf]
    rfl
  · rw [hlines, lineOf_modify_of_ne _ _ (Ne.symm hj)]
    rfl
  · have hat := (page_at hc).place_of_ne (Ne.symm hne) hi m
    rw [← h] at hat
    exact (of_page_at hat).2.1

end Document.Anchors

/-- The line that is meant: the given one, or the line of the cursor. -/
def Document.Means (d : Document) (line : Option Int) (i : Nat) : Prop :=
  i < d.lineCount ∧ (line = some (i : Int) ∨ line = none ∧ i = d.cursorLine)

lemma answers_lineOrCursor {b : Buffer} {line : Option Int} {i : Nat}
    (h : b.document.Means line i) : Edit.Answers b (Edit.lineOrCursor line) (.ok i) := by
  obtain ⟨hi, rfl | ⟨rfl, rfl⟩⟩ := h
  · exact Edit.answers_checkLine rfl hi
  · refine Edit.Answers.document.bind fun b' hr => ?_
    have hat := Edit.answers_lineAt b' b.document.cursor
    rwa [Document.lineAt_congr hr.lines] at hat

lemma perform_lineOrCursor {b : Buffer} {line : Option Int} {i : Nat}
    (h : b.document.Means line i) :
    ∃ b', perform b (Edit.lineOrCursor line) = (.ok i, b') ∧ b'.On b.document.page := by
  obtain ⟨b', hp, _, hpage⟩ := (answers_lineOrCursor h).turns
  exact ⟨b', hp, hpage⟩

/-- In any buffer whose cursor is in its text, with whatever lexer and whatever line above is given,
indenting changes nothing but margins, and the cursor keeps its line. After a pass it stands as far
past the margin of its line as before, or at the margin's end if it was within the margin; so it
does when its own line is indented, and when another line is, its column stays, too. -/
theorem indent_anchors [Memory] (b : Buffer) (hc : b.document.cursor ≤ b.document.length)
    (settings : Settings) (s : Style) (hs : settings.style = .ok s) (lexer : Option Lexer) :
    (∀ outcome after, perform b (indentBuffer settings lexer) = (outcome, after) →
      after.document.lineCount = b.document.lineCount ∧
        (∀ i, contentOf (after.document.line i) = contentOf (b.document.line i)) ∧
        after.document.cursorLine = b.document.cursorLine ∧
        after.document.cursor ≤ after.document.length ∧
        ∀ rs, outcome = .ok rs → after.document.pastMargin = max 0 b.document.pastMargin) ∧
      ∀ previous line i outcome after, b.document.Means line i →
        perform b (indentLine settings lexer previous line) = (outcome, after) →
          b.document.Anchors after.document i ∧
            ∀ r, outcome = .ok r → b.document.cursorLine = i →
              after.document.pastMargin = max 0 b.document.pastMargin := by
  have hstyle : ∀ {α : Type} (next : Style → Edit α),
      perform b (do next (← (settings.style : Except Fault Style))) = perform b (next s) := by
    intro α next
    rw [hs]
    rfl
  constructor
  · intro outcome after hafter
    have hpass : perform b (s.indentBuffer lexer) = (outcome, after) := (hstyle _).symm.trans hafter
    obtain ⟨hcontents, y, hy, hok⟩ :=
      s.indentBuffer_leaves lexer (b := b) rfl (Document.page_past hc)
    rw [hpass] at hcontents hy hok
    obtain ⟨hline, hpast, hle⟩ := Document.of_page_past hy
    refine ⟨?_, fun i => ?_, hline, hle, fun rs hrs => hpast.trans (hok rs hrs)⟩
    · have hlen := congrArg List.length hcontents
      rwa [List.length_map, List.length_map] at hlen
    · have hi := congrArg (lineOf · i) hcontents
      simp only [Outline.lineOf_contents] at hi
      exact hi
  · intro previous line i outcome after hmeans hafter
    obtain ⟨b₁, hp, h₁⟩ := perform_lineOrCursor hmeans
    have hline : perform b₁ (s.indentLine lexer previous i) = (outcome, after) := by
      rw [← Edit.perform_bind_ok hp, ← hafter]
      exact (hstyle fun style => do
        style.indentLine lexer previous (← Edit.lineOrCursor line)).symm
    rcases s.perform_indentLine_cases lexer previous h₁ hmeans.1 with
      ⟨f, b', hb', hpage⟩ | ⟨r, m, b', hb', hpage⟩
    · obtain ⟨rfl, rfl⟩ := Prod.mk.inj (hline.symm.trans hb')
      exact ⟨.of_page_eq hc hpage, fun r hr => nomatch hr⟩
    · obtain ⟨rfl, rfl⟩ := Prod.mk.inj (hline.symm.trans hb')
      obtain ⟨hanchors, hpast⟩ := Document.Anchors.of_page_place hc hmeans.1 hpage
      exact ⟨hanchors, fun _ _ => hpast⟩

section Ample

attribute [local instance] Memory.ample

/-- A lexer that takes every position for a literal and every line for one that opens three
parentheses, and a cursor within the margin of the last line. -/
theorem indent_anchors_oracle :
    let o : Oracle := ⟨fun _ _ _ => true, fun _ _ _ _ => 3⟩
    let b := Buffer.ofText "a\n\tb\n    c".toList 7
    b.document.cursor ≤ b.document.length ∧ ∀ outcome after,
      perform b (indentBuffer {} (some (.oracle o))) = (outcome, after) →
        outcome = .ok [⟨0, 3, 0, 12⟩, ⟨1, 3, 12, 24⟩, ⟨2, 3, 24, 36⟩] ∧
          after.document.cursorLine = 2 ∧ after.document.pastMargin = 0 := by
  intro o b
  have hc : b.document.cursor ≤ b.document.length := by decide +kernel
  have hbefore : b.document.cursorLine = 2 ∧ max 0 b.document.pastMargin = 0 := by decide +kernel
  have hok : (perform b (indentBuffer {} (some (.oracle o)))).1 =
      .ok [⟨0, 3, 0, 12⟩, ⟨1, 3, 12, 24⟩, ⟨2, 3, 24, 36⟩] := by decide +kernel
  refine ⟨hc, fun outcome after hafter => ?_⟩
  rw [hafter] at hok
  have h := (indent_anchors b hc {} _ rfl (some (.oracle o))).1 outcome after hafter
  exact ⟨hok, h.2.2.1.trans hbefore.1, (h.2.2.2.2 _ hok).trans hbefore.2⟩

end Ample
end SqlMargin
