import SqlMargin.Proofs.Buffer.History
import SqlMargin.Proofs.Indent.Contents
import SqlMargin.Proofs.Indent.Faults

/-! What the records of a pass tell. Each line is written once and not touched again, so the lines
that a pass leaves are the ones it told of, whatever its lexer answers: the levels are the lexer's,
but what follows from them is written in the text and can be measured there. -/
namespace SqlMargin
open Edit (perform)
open Outline (lineOf indentGiven)

/-- The runs of a pass from line `i` on: lines, the lines made of them, and the records. Any change
of level will do. `above` are the columns of the last line before that is not blank. -/
inductive Style.Lays [Memory] (s : Style) :
    Nat → Nat → List (List Char) → List (List Char) → List Record → Prop
  | nil (above i : Nat) : s.Lays above i [] [] []
  | emptied {above i : Nat} {l ls ms rs} (hblank : Text.allBlank l = true)
      (hskip : s.blankLines = false) (rest : s.Lays above (i + 1) ls ms rs) :
      s.Lays above i (l :: ls) (contentOf l :: ms) rs
  | placed {above i : Nat} {l ls ms rs m} (delta : Int)
      (hkeep : s.blankLines = true ∨ Text.allBlank l = false)
      (hm : s.margin (s.newIndent ⟨delta, above⟩) = .ok m)
      (rest : s.Lays (if Text.allBlank l then above else s.newIndent ⟨delta, above⟩) (i + 1) ls ms
        rs) :
      s.Lays above i (l :: ls) ((m.chars ++ contentOf l) :: ms)
        (⟨i, delta, above, s.newIndent ⟨delta, above⟩⟩ :: rs)

namespace Outline

/-- Line `j` is the nearest line above line `i` that is not blank. -/
def Precedes (ls : List (List Char)) (j i : Nat) : Prop :=
  j < i ∧ Text.allBlank (lineOf ls j) = false ∧
    ∀ k, j < k → k < i → Text.allBlank (lineOf ls k) = true

variable {l : List Char} {ls : List (List Char)} {i j : Nat}

lemma Precedes.cons (h : Precedes ls j i) (l : List Char) :
    Precedes (l :: ls) (j + 1) (i + 1) := by
  obtain ⟨hlt, hcode, hblank⟩ := h
  refine ⟨by omega, hcode, fun k hjk hki => ?_⟩
  obtain ⟨k, rfl⟩ := Nat.exists_eq_succ_of_ne_zero (by omega : k ≠ 0)
  exact hblank k (by omega) (by omega)

lemma precedes_zero (hl : Text.allBlank l = false)
    (h : ∀ k < i, Text.allBlank (lineOf ls k) = true) : Precedes (l :: ls) 0 (i + 1) := by
  refine ⟨Nat.succ_pos i, hl, fun k hk hki => ?_⟩
  obtain ⟨k, rfl⟩ := Nat.exists_eq_succ_of_ne_zero (by omega : k ≠ 0)
  exact h k (by omega)

lemma allBlank_cons_of_lt (hl : Text.allBlank l = true)
    (h : ∀ k < i, Text.allBlank (lineOf ls k) = true) :
    ∀ k < i + 1, Text.allBlank (lineOf (l :: ls) k) = true := by
  intro k hk
  cases k with
  | zero => exact hl
  | succ k => exact h k (by omega)

end Outline

namespace Style.Lays
open Outline (Precedes)

variable [Memory]

variable {s : Style} {above i : Nat} {ls ms : List (List Char)} {rs : List Record}

lemma contents (h : s.Lays above i ls ms rs) : ms.map contentOf = ls.map contentOf := by
  induction h with
  | nil => rfl
  | emptied _ _ _ ih => simp [ih]
  | @placed _ _ _ _ _ _ m _ _ _ _ ih => simp [ih, m.contentOf_append]

lemma le_line (h : s.Lays above i ls ms rs) : ∀ r ∈ rs, i ≤ r.line := by
  induction h with
  | nil => simp
  | emptied _ _ _ ih => exact fun r hr => Nat.le_of_succ_le (ih r hr)
  | placed _ _ _ _ ih =>
    intro r hr
    rcases List.mem_cons.1 hr with rfl | hr
    · exact Nat.le_refl _
    · exact Nat.le_of_succ_le (ih r hr)

/-- Records come in the order of their lines. -/
theorem increasing (h : s.Lays above i ls ms rs) : rs.Pairwise fun q r => q.line < r.line := by
  induction h with
  | nil => exact .nil
  | emptied _ _ _ ih => exact ih
  | placed _ _ _ rest ih => exact List.pairwise_cons.2 ⟨fun r hr => rest.le_line r hr, ih⟩

/-- A record stands for a line, and the line has the margin that the record tells. -/
theorem record (h : s.Lays above i ls ms rs) {r : Record} (hr : r ∈ rs) :
    ∃ j < ms.length, r.line = i + j ∧
      (s.blankLines = true ∨ Text.allBlank (lineOf ms j) = false) ∧
      r.newIndent = s.newIndent ⟨r.delta, r.previousIndent⟩ ∧
      ∃ m, s.margin r.newIndent = .ok m ∧ marginOf (lineOf ms j) = m.chars := by
  induction h with
  | nil => cases hr
  | emptied _ _ _ ih =>
    obtain ⟨j, hj, hline, hrest⟩ := ih hr
    exact ⟨j + 1, Nat.succ_lt_succ hj, by omega, hrest⟩
  | @placed _ _ l _ _ _ m delta hkeep hm _ ih =>
    rcases List.mem_cons.1 hr with rfl | hr
    · have hmargin : marginOf (m.chars ++ contentOf l) = m.chars := by
        rw [m.marginOf_append, marginOf_contentOf, List.append_nil]
      rw [← allBlank_place m l] at hkeep
      exact ⟨0, Nat.succ_pos _, rfl, hkeep, rfl, m, hm, hmargin⟩
    · obtain ⟨j, hj, hline, hrest⟩ := ih hr
      exact ⟨j + 1, Nat.succ_lt_succ hj, by omega, hrest⟩

/-- A line has a record, or it was emptied. -/
theorem line (h : s.Lays above i ls ms rs) {j : Nat} (hj : j < ms.length) :
    (∃ r ∈ rs, r.line = i + j) ∨
      s.blankLines = false ∧ Text.allBlank (lineOf ms j) = true ∧ marginOf (lineOf ms j) = [] := by
  induction h generalizing j with
  | nil => cases hj
  | @emptied _ i l _ _ _ hblank hskip _ ih =>
    cases j with
    | zero =>
      rw [← Text.allBlank_contentOf] at hblank
      exact .inr ⟨hskip, hblank, marginOf_contentOf l⟩
    | succ j =>
      rw [show i + (j + 1) = i + 1 + j by omega]
      exact ih (Nat.lt_of_succ_lt_succ hj)
  | @placed _ i _ _ _ _ _ _ _ _ _ ih =>
    cases j with
    | zero => exact .inl ⟨_, List.mem_cons_self, rfl⟩
    | succ j =>
      rw [show i + (j + 1) = i + 1 + j by omega]
      refine (ih (Nat.lt_of_succ_lt_succ hj)).imp_left ?_
      rintro ⟨r, hr, hline⟩
      exact ⟨r, List.mem_cons_of_mem _ hr, hline⟩

/-- A line is counted from the record of the line above that is not blank. -/
theorem previous (h : s.Lays above i ls ms rs) {r : Record} (hr : r ∈ rs) :
    ∃ j, r.line = i + j ∧
      ((∃ q ∈ rs, ∃ k, q.line = i + k ∧ Precedes ms k j ∧ r.previousIndent = q.newIndent) ∨
        (∀ k < j, Text.allBlank (lineOf ms k) = true) ∧ r.previousIndent = above) := by
  induction h with
  | nil => cases hr
  | @emptied _ i l _ _ _ hblank _ _ ih =>
    rw [← Text.allBlank_contentOf] at hblank
    obtain ⟨j, hline, ⟨q, hq, k, hk, hprecedes, hindent⟩ | ⟨hall, hindent⟩⟩ := ih hr
    · exact ⟨j + 1, by omega, .inl ⟨q, hq, k + 1, by omega, hprecedes.cons _, hindent⟩⟩
    · exact ⟨j + 1, by omega, .inr ⟨Outline.allBlank_cons_of_lt hblank hall, hindent⟩⟩
  | @placed above i l _ _ _ m delta _ _ _ ih =>
    rcases List.mem_cons.1 hr with rfl | hr
    · exact ⟨0, rfl, .inr ⟨fun k hk => absurd hk (Nat.not_lt_zero k), rfl⟩⟩
    obtain ⟨j, hline, ⟨q, hq, k, hk, hprecedes, hindent⟩ | ⟨hall, hindent⟩⟩ := ih hr
    · exact ⟨j + 1, by omega,
        .inl ⟨q, List.mem_cons_of_mem _ hq, k + 1, by omega, hprecedes.cons _, hindent⟩⟩
    · have hblank := allBlank_place m l
      cases hl : Text.allBlank l with
      | true =>
        rw [hl] at hblank hindent
        exact ⟨j + 1, by omega, .inr ⟨Outline.allBlank_cons_of_lt hblank hall, hindent⟩⟩
      | false =>
        rw [hl] at hblank hindent
        exact ⟨j + 1, by omega, .inl ⟨_, List.mem_cons_self, 0, rfl,
          Outline.precedes_zero hblank hall, hindent⟩⟩

end Style.Lays

/-! ### Runs of the pass -/

/-- A blank line that is placed does not change what the next one is counted from. -/
lemma Outline.indentGiven_blank {p : Page} {i : Nat} (hi : i < p.lines.length)
    (hb : Text.allBlank (lineOf p.lines i) = true) (s : Style) (m : Margin)
    (given : Option (Previous Int)) :
    indentGiven s (p.place i m).lines (i + 1) given = indentGiven s p.lines i given := by
  cases given with
  | some above => rfl
  | none =>
    have htake := take_modify_self p.lines (fun l => m.chars ++ contentOf l) i
    have hline := lineOf_modify_self p.lines (fun l => m.chars ++ contentOf l) hi
    have habove : above? (p.place i m).lines (i + 1) = above? p.lines i := by
      change above? (p.lines.modify i fun l => m.chars ++ contentOf l) (i + 1) = _
      rw [above?_succ, hline, allBlank_place, if_pos hb, above?_congr htake]
    unfold indentGiven indentAbove
    rw [habove]
    cases hj : above? p.lines i with
    | none => rfl
    | some j =>
      exact congrArg (fun l => (columns s.tabWidth l : Int))
        (lineOf_congr htake (above?_spec _ hj).1)

/-- What the line after a line that is placed is counted from. -/
lemma Outline.indentGiven_place {p : Page} {i : Nat} (hi : i < p.lines.length) {s : Style}
    {given : Option (Previous Int)} {above : Nat} (habove : indentGiven s p.lines i given = above)
    (m : Margin) (start : Int) (n : Nat) :
    indentGiven s (p.place i m).lines (i + 1)
        (if Text.allBlank (lineOf p.lines i) then given else some ⟨start, n⟩) =
      (if Text.allBlank (lineOf p.lines i) then above else n : Nat) := by
  cases hb : Text.allBlank (lineOf p.lines i) with
  | true => exact (indentGiven_blank hi hb s m given).trans habove
  | false => rfl

namespace Style

variable {faulty : Fault → Prop} {b : Buffer} {p : Page} {i : Nat} {l : Lexer}

/-- One step of a pass: it fails where a question to the lexer does, or where there is no room for
the line, or the line gets a margin and the pass goes on. `more` adds what is told of the line. -/
lemma indentFrom_step [Memory] (h : l.FailsBy faulty b) (hp : b.document.page = p) (s : Style)
    (n : Nat)
    (hi : i < p.lines.length) {given : Option (Previous Int)} {above : Nat}
    (habove : indentGiven s p.lines i given = above) :
    (∃ f b', (faulty f ∨ f.TooLarge) ∧
        perform b (s.indentFrom l (n + 1) i given) = (.error f, b')) ∨
      ∃ (m : Margin) (next : Option (Previous Int)) (below : Nat)
        (more : List Record → List Record) (b₁ : Buffer),
        b.Evolves b₁ ∧ b₁.document.page = p.place i m ∧
        indentGiven s (p.place i m).lines (i + 1) next = below ∧
        perform b (s.indentFrom l (n + 1) i given) =
          perform b₁ (do return more (← s.indentFrom l n (i + 1) next)) ∧
        ∀ ls ms rs, s.Lays below (i + 1) ls ms rs →
          s.Lays above i (lineOf p.lines i :: ls)
            ((m.chars ++ contentOf (lineOf p.lines i)) :: ms) (more rs) := by
  have hstep : perform b (s.indentFrom l (n + 1) i given) =
      perform b (if Text.allBlank (lineOf p.lines i) && !s.blankLines then do
          Edit.setMargin i .empty
          s.indentFrom l n (i + 1) given
        else do
          let record ← s.indentLine (some l) given i
          return record :: (← s.indentFrom l n (i + 1) (← passed given i record.newIndent))) := by
    subst hp
    rfl
  rw [hstep]
  by_cases hb : (Text.allBlank (lineOf p.lines i) && !s.blankLines) = true
  · have hset : Edit.Turns b (Edit.setMargin i .empty) (p.write i .empty) := by
      subst hp
      exact Edit.turns_setMargin hi .empty
    rw [if_pos hb]
    rcases p.write_cases i .empty with ⟨f, hf, _, hw⟩ | ⟨_, hw⟩
    · rw [hw] at hset
      obtain ⟨b₁, hset, _⟩ := hset
      exact .inl ⟨f, b₁, .inr hf, Edit.perform_bind_error hset _⟩
    rw [hw] at hset
    obtain ⟨b₁, hset, h₁, hpage⟩ := hset
    rw [Edit.perform_bind_ok hset]
    rw [Bool.and_eq_true, Bool.not_eq_true'] at hb
    refine .inr ⟨.empty, given, above, id, b₁, h₁, hpage,
      (Outline.indentGiven_blank hi hb.1 s .empty given).trans habove, ?_,
      fun _ _ _ => .emptied hb.1 hb.2⟩
    exact congrArg (perform b₁) (bind_pure _).symm
  · have hkeep : s.blankLines = true ∨ Text.allBlank (lineOf p.lines i) = false := by
      cases hl : Text.allBlank (lineOf p.lines i) with
      | true => exact .inl (by simpa [hl] using hb)
      | false => exact .inr rfl
    rw [if_neg hb]
    rcases Style.indentLine_cases h hp s given hi with
      ⟨f, b₁, hf, hline⟩ | ⟨⟨delta, indent⟩, hlevel, hturns⟩
    · exact .inl ⟨f, b₁, .inl hf, Edit.perform_bind_error hline _⟩
    obtain rfl : indent = above := hlevel.trans habove
    rcases s.placeAt_cases ⟨delta, above⟩ i p with ⟨f, hf, _, hplace⟩ | ⟨m, hm, _, hplace⟩
    · rw [hplace] at hturns
      obtain ⟨b₁, hline, _⟩ := hturns
      exact .inl ⟨f, b₁, .inr hf, Edit.perform_bind_error hline _⟩
    · rw [hplace] at hturns
      obtain ⟨b₁, hline, h₁, hpage₁⟩ := hturns
      obtain ⟨b₂, hpassed, h₂, hpage₂⟩ := turns_passed hpage₁ (by rwa [Page.length_place]) given
        (s.newIndent ⟨delta, above⟩)
      rw [allBlank_lineOf_place hi] at hpassed
      rw [Edit.perform_bind_ok hline, Edit.perform_bind_ok hpassed]
      exact .inr ⟨m, _, _, _, b₂, h₁.trans h₂, hpage₂,
        Outline.indentGiven_place hi habove m _ _, rfl, fun _ _ _ => .placed delta hkeep hm⟩

/-- A pass that ends well is a run; it fails where a question to the lexer does, or where there is
no room for a line. -/
theorem indentFrom_lays [Memory] (h : l.FailsBy faulty b) (hp : b.document.page = p) (s : Style)
    (n : Nat)
    (hn : i + n = p.lines.length) {given : Option (Previous Int)} {above : Nat}
    (habove : indentGiven s p.lines i given = above) :
    (∃ f b', (faulty f ∨ f.TooLarge) ∧
        perform b (s.indentFrom l n i given) = (.error f, b')) ∨
      ∃ rs ms b', perform b (s.indentFrom l n i given) = (.ok rs, b') ∧
        b'.document.lines = p.lines.take i ++ ms ∧ s.Lays above i (p.lines.drop i) ms rs := by
  -- The lines above are final, and `above` goes along as what the next line is counted from.
  induction n generalizing b i p given above with
  | zero =>
    have hdrop : p.lines.drop i = [] := List.drop_of_length_le (by omega)
    have htake : p.lines.take i = p.lines := List.take_of_length_le (by omega)
    subst hp
    refine .inr ⟨[], [], b, rfl, ?_, ?_⟩
    · rw [htake, List.append_nil]
      rfl
    · rw [hdrop]
      exact .nil above i
  | succ n ih =>
    have hi : i < p.lines.length := by omega
    rcases indentFrom_step h hp s n hi habove with
      hfail | ⟨m, next, below, more, b₁, h₁, hpage, hbelow, hwork, hlays⟩
    · exact .inl hfail
    have hlen : i + 1 + n = (p.place i m).lines.length := by
      rw [Page.length_place]
      omega
    rw [hwork]
    rcases ih (h.evolves h₁) hpage hlen hbelow with
      ⟨f, b', hf, hrest⟩ | ⟨rs, ms, b', hrest, hlines, hrun⟩
    · exact .inl ⟨f, b', hf, Edit.perform_bind_error hrest _⟩
    have hdrop : p.lines.drop i = lineOf p.lines i :: (p.place i m).lines.drop (i + 1) := by
      change _ = _ :: (p.lines.modify i fun l => m.chars ++ contentOf l).drop (i + 1)
      rw [List.drop_modify_of_lt _ i (i + 1) p.lines (Nat.lt_succ_self i),
        List.drop_eq_getElem_cons hi, lineOf, List.getElem?_eq_getElem hi, Option.getD_some]
    refine .inr ⟨more rs, (m.chars ++ contentOf (lineOf p.lines i)) :: ms, b',
      Edit.perform_bind_ok hrest _, ?_, ?_⟩
    · rw [hlines, take_succ_place hi, List.append_assoc]
      rfl
    · rw [hdrop]
      exact hlays _ _ _ hrun

/-- The pass over a whole buffer, with the lexer given or with one that is opened for it. -/
lemma indentBuffer_lays [Memory] (b : Buffer) (s : Style) (lexer : Option Lexer)
    (h : ∀ l, lexer = some l → l.FailsBy faulty b)
    (hnone : lexer = none → (Lexer.classifier b.classifiers.length).FailsBy faulty
      (b.openClassifier s.escapes)) :
    (∃ f b', (faulty f ∨ f.TooLarge) ∧ perform b (s.indentBuffer lexer) = (.error f, b')) ∨
      ∃ rs b', perform b (s.indentBuffer lexer) = (.ok rs, b') ∧
        s.Lays 0 0 b.document.lines b'.document.lines rs := by
  have hwhole : ∀ {b₁ : Buffer} {l : Lexer}, b₁.document.lines = b.document.lines →
      l.FailsBy faulty b₁ →
      (∃ f b', (faulty f ∨ f.TooLarge) ∧
          perform b₁ (s.indentFrom l b₁.document.lineCount 0 none) = (.error f, b')) ∨
        ∃ rs b', perform b₁ (s.indentFrom l b₁.document.lineCount 0 none) = (.ok rs, b') ∧
          s.Lays 0 0 b.document.lines b'.document.lines rs := by
    intro b₁ l hlines hl
    have hfirst : indentGiven s b₁.document.page.lines 0 none = (0 : Nat) := by
      simp [indentGiven, Outline.indentAbove, Outline.above?, Document.lastCode]
    rcases indentFrom_lays hl rfl s _ (Nat.zero_add _) hfirst with
      hfail | ⟨rs, ms, b', hwork, hms, hlays⟩
    · exact .inl hfail
    · rw [List.take_zero, List.nil_append] at hms
      rw [List.drop_zero, ← hms] at hlays
      rw [← hlines]
      exact .inr ⟨rs, b', hwork, hlays⟩
  cases lexer with
  | some l => exact hwhole rfl (h l rfl)
  | none =>
    unfold indentBuffer
    rw [Lexer.perform_during_none, Edit.perform_bind_ok (Edit.perform_document _)]
    rcases @hwhole (b.openClassifier s.escapes) _ rfl (hnone rfl) with
      ⟨f, b', hf, hwork⟩ | ⟨rs, b', hwork, hlays⟩
    · rw [hwork]
      exact .inl ⟨f, _, hf, rfl⟩
    · rw [hwork]
      exact .inr ⟨rs, _, rfl, hlays⟩

/-- What records tell of a text: they stand for its lines from top to bottom, the blank ones left
out where the style says so; each line is counted from the record of the line above that is not
blank, goes as far as its change of level says but never past the start, and has the margin of just
so many columns. Lines without a record have no margin. -/
structure Tells [Memory] (s : Style) (d : Document) (rs : List Record) : Prop where
  increasing : rs.Pairwise fun q r => q.line < r.line
  lines : ∀ i, (∃ r ∈ rs, r.line = i) ↔
    i < d.lineCount ∧ (s.blankLines = true ∨ d.isBlank i = false)
  previous : ∀ r ∈ rs,
    (∃ q ∈ rs, Outline.Precedes d.lines q.line r.line ∧ r.previousIndent = q.newIndent) ∨
      (∀ j < r.line, d.isBlank j = true) ∧ r.previousIndent = 0
  indent : ∀ r ∈ rs, (r.newIndent : Int) = max 0 (r.previousIndent + s.offset * r.delta)
  margin : ∀ r ∈ rs, ∃ m, s.margin r.newIndent = .ok m ∧ d.margin r.line = m.chars
  columns : ∀ r ∈ rs, s.reading.ruler.columnsOf (d.line r.line) = .ok (r.newIndent : Int)
  bare : ∀ i, (∀ r ∈ rs, r.line ≠ i) → d.margin i = []
  tabs : s.withTabs = true → ∀ i, ∃ whole rest, rest < s.tabWidth ∧
    d.margin i = List.replicate whole '\t' ++ List.replicate rest ' '
  spaces : s.withTabs = false → ∀ i, '\t' ∉ d.margin i

/-- Records of a run tell of the lines it leaves. -/
theorem Lays.tells [Memory] {s : Style} {ls : List (List Char)} {d : Document} {rs : List Record}
    (h : s.Lays 0 0 ls d.lines rs) : s.Tells d rs := by
  have hrecord : ∀ r ∈ rs, r.line < d.lineCount ∧
      (s.blankLines = true ∨ d.isBlank r.line = false) ∧
      r.newIndent = s.newIndent ⟨r.delta, r.previousIndent⟩ ∧
      ∃ m, s.margin r.newIndent = .ok m ∧ d.margin r.line = m.chars := by
    intro r hr
    obtain ⟨j, hj, hline, hrest⟩ := h.record hr
    rw [Nat.zero_add] at hline
    subst hline
    exact ⟨hj, hrest⟩
  have hline : ∀ i < d.lineCount, (∃ r ∈ rs, r.line = i) ∨
      s.blankLines = false ∧ d.isBlank i = true ∧ d.margin i = [] := by
    intro i hi
    have hcases := h.line hi
    rwa [Nat.zero_add] at hcases
  have hmargin : ∀ i, d.margin i = [] ∨ ∃ r ∈ rs, r.line = i := by
    intro i
    by_cases hi : i < d.lineCount
    · exact (hline i hi).symm.imp_left fun hempty => hempty.2.2
    · have hnone : d.line i = [] := by
        rw [Document.line, List.getElem?_eq_none (Nat.le_of_not_lt hi), Option.getD_none]
      exact .inl (congrArg marginOf hnone)
  refine ⟨h.increasing, fun i => ⟨?_, ?_⟩, fun r hr => ?_, fun r hr => ?_,
    fun r hr => (hrecord r hr).2.2.2, fun r hr => ?_, fun i hi => ?_, fun ht i => ?_, fun ht i => ?_⟩
  · rintro ⟨r, hr, rfl⟩
    exact ⟨(hrecord r hr).1, (hrecord r hr).2.1⟩
  · rintro ⟨hi, hkeep⟩
    refine (hline i hi).resolve_right ?_
    rintro ⟨hskip, hblank, _⟩
    simp [hskip, hblank] at hkeep
  · obtain ⟨j, hj, ⟨q, hq, k, hk, hprecedes, hindent⟩ | ⟨hall, hindent⟩⟩ := h.previous hr
    · rw [Nat.zero_add] at hj hk
      subst hj hk
      exact .inl ⟨q, hq, hprecedes, hindent⟩
    · rw [Nat.zero_add] at hj
      subst hj
      exact .inr ⟨hall, hindent⟩
  · rw [(hrecord r hr).2.2.1, newIndent, Int.ofNat_toNat, Int.max_comm]
  · obtain ⟨m, hm, hchars⟩ := (hrecord r hr).2.2.2
    have hsplit : d.line r.line = m.chars ++ contentOf (d.line r.line) := by
      rw [← hchars]
      exact (marginOf_append_contentOf _).symm
    rw [columnsOf_eq, hsplit, columns_margin hm]
  · refine (hmargin i).resolve_right ?_
    rintro ⟨r, hr, hri⟩
    exact hi r hr hri
  · rcases hmargin i with hempty | ⟨r, hr, rfl⟩
    · exact ⟨0, 0, s.tabWidth_pos, hempty⟩
    · obtain ⟨m, hm, hchars⟩ := (hrecord r hr).2.2.2
      refine ⟨r.newIndent / s.tabWidth, r.newIndent % s.tabWidth, Nat.mod_lt _ s.tabWidth_pos, ?_⟩
      rw [hchars, eq_render hm, render, if_pos ht]
      rfl
  · rcases hmargin i with hempty | ⟨r, hr, rfl⟩
    · rw [hempty]
      exact List.not_mem_nil
    · obtain ⟨m, hm, hchars⟩ := (hrecord r hr).2.2.2
      rw [hchars, eq_render hm, render, ht]
      intro hmem
      cases List.eq_of_mem_replicate hmem

end Style

/-- In any buffer, with whatever lexer: the records of a pass that ends well tell of the text it
leaves, and nothing but margins has changed. With an oracle, a classifier that was opened and not
closed, or none, it ends well unless there is no room for a line. -/
theorem indentBuffer_tells [Memory] (settings : Settings) (s : Style)
    (hs : settings.check = .ok s) :
    (∀ (b : Buffer) (lexer : Option Lexer) (rs : List Record) (after : Buffer),
      perform b (indentBuffer settings lexer) = (.ok rs, after) →
        s.Tells after.document rs ∧
          after.document.lines.map contentOf = b.document.lines.map contentOf) ∧
    ∀ (t : List Char) (cursor : Int) (calls : List Buffer.Call) (lexer : Option Lexer),
      (∀ k, lexer = some (.classifier k) → ∃ e, (Buffer.ofText t cursor).Opened calls k e) →
        let outcome :=
          (perform ((Buffer.ofText t cursor).after calls) (indentBuffer settings lexer)).1
        (∃ rs, outcome = .ok rs) ∨ ∃ f, f.TooLarge ∧ outcome = .error f := by
  have hpass : ∀ (b : Buffer) (lexer : Option Lexer),
      perform b (indentBuffer settings lexer) = perform b (s.indentBuffer lexer) := by
    intro b lexer
    unfold indentBuffer Settings.style
    rw [hs]
    rfl
  constructor
  · intro b lexer rs after hafter
    rw [hpass] at hafter
    rcases Style.indentBuffer_lays b s lexer (fun l _ => l.failsBy_any b)
      (fun _ => Lexer.failsBy_any _ _) with ⟨f, b', _, hwork⟩ | ⟨rs', b', hwork, hlays⟩
    · rw [hwork] at hafter
      cases hafter
    · rw [hwork] at hafter
      cases hafter
      exact ⟨hlays.tells, hlays.contents⟩
  · intro t cursor calls lexer hopened outcome
    have hsound := (Buffer.carries_after (Buffer.sound_ofText t cursor) calls).1
    have hanswers : ∀ l, lexer = some l →
        l.FailsBy (fun _ => False) ((Buffer.ofText t cursor).after calls) := by
      intro l hl
      cases l with
      | oracle o => exact Lexer.failsBy_oracle o _
      | classifier k =>
        obtain ⟨e, he⟩ := hopened k hl
        exact Lexer.failsBy_classifier
          (Buffer.serves_of_opened (Buffer.sound_ofText t cursor) he)
    rcases Style.indentBuffer_lays _ s lexer hanswers
      (fun _ => Lexer.failsBy_classifier (hsound.serves_openClassifier s.escapes)) with
      ⟨f, b', hf, hwork⟩ | ⟨rs, b', hwork, _⟩
    · exact .inr ⟨f, hf.resolve_left id, congrArg Prod.fst ((hpass _ _).trans hwork)⟩
    · exact .inl ⟨rs, congrArg Prod.fst ((hpass _ _).trans hwork)⟩

section Ample

attribute [local instance] Memory.ample

/-- An oracle whose answers change from one question to the next, tabs, and a blank line that is
emptied. -/
theorem indentBuffer_tells_oracle :
    let settings : Settings := { indentWithTabs := .bool true, tabWidth := .int 8,
                                 indentOffset := .int 5, indentBlankLines := .bool false }
    let oracle : Oracle := ⟨fun _ _ _ => true, fun n _ _ _ => if n % 3 = 0 then 3 else -1⟩
    let b := Buffer.ofText "a\n  \n b\n\tc".toList 0
    ∃ s, settings.check = .ok s ∧ ∀ outcome after,
      perform b (indentBuffer settings (some (.oracle oracle))) = (outcome, after) →
        outcome = .ok [⟨0, 3, 0, 15⟩, ⟨2, -1, 15, 10⟩, ⟨3, -1, 10, 5⟩] ∧
          s.Tells after.document [⟨0, 3, 0, 15⟩, ⟨2, -1, 15, 10⟩, ⟨3, -1, 10, 5⟩] := by
  intro settings oracle b
  have hok : (perform b (indentBuffer settings (some (.oracle oracle)))).1 =
      .ok [⟨0, 3, 0, 15⟩, ⟨2, -1, 15, 10⟩, ⟨3, -1, 10, 5⟩] := by decide +kernel
  refine ⟨_, rfl, fun outcome after hafter => ?_⟩
  rw [hafter] at hok
  dsimp only at hok
  subst hok
  exact ⟨rfl, ((indentBuffer_tells settings _ rfl).1 b _ _ after hafter).1⟩

end Ample
end SqlMargin
