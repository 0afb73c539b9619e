import SqlMargin.Proofs.Indent.Level

/-! Pages: what is seen of a document, its lines and its cursor. Work that edits turns one page into
another, and what it turns it into hangs on the page alone. -/
namespace SqlMargin
open Edit (perform Answers)
open Outline (lineOf)

/-- Lines and a cursor. -/
structure Page where
  lines : List (List Char)
  cursor : Nat

def Document.page (d : Document) : Page := ⟨d.lines, d.cursor⟩

/-- Gives line `i` a margin. A cursor in the old margin goes to the end of the new one, and a cursor
further on stays on its character. -/
def Page.place (p : Page) (i : Nat) (m : Margin) : Page :=
  let lines := p.lines.modify i fun l => m.chars ++ contentOf l
  let start := Text.extent (p.lines.take i)
  let old := (marginOf (lineOf p.lines i)).length
  { lines
    cursor :=
      if p.cursor < start then p.cursor
      else if p.cursor < start + old then start + m.chars.length
      else min (p.cursor + m.chars.length - old) (Text.extent lines - 1) }

/-- Characters of the text down to the end of line `i`, once the line has a margin. -/
def Page.lengthTo (p : Page) (i : Nat) (m : Margin) : Nat :=
  Text.extent (p.lines.take i) + m.chars.length + (contentOf (lineOf p.lines i)).length

/-- Gives line `i` a margin, if there is room for the text down to its end. -/
def Page.write [Memory] (p : Page) (i : Nat) (m : Margin) : Except Fault Unit × Page :=
  match Memory.check (p.lengthTo i m) with
  | .error f => (.error f, p)
  | .ok _ => (.ok (), p.place i m)

lemma Page.write_cases [Memory] (p : Page) (i : Nat) (m : Margin) :
    (∃ f, f.TooLarge ∧ Memory.room < p.lengthTo i m ∧ p.write i m = (.error f, p)) ∨
      p.lengthTo i m ≤ Memory.room ∧ p.write i m = (.ok (), p.place i m) := by
  unfold write
  rcases Memory.check_cases (p.lengthTo i m) with ⟨f, hf, hroom, hc⟩ | ⟨hroom, hc⟩
  · rw [hc]
    exact .inl ⟨f, hf, hroom, rfl⟩
  · rw [hc]
    exact .inr ⟨hroom, rfl⟩

@[simp] lemma Page.length_place (p : Page) (i : Nat) (m : Margin) :
    (p.place i m).lines.length = p.lines.length := List.length_modify ..

section Modify

variable (ls : List (List Char)) (f : List Char → List Char)

lemma lineOf_modify_self {i : Nat} (h : i < ls.length) :
    lineOf (ls.modify i f) i = f (lineOf ls i) := by
  simp [lineOf, List.getElem?_eq_getElem h]

lemma extent_modify {i : Nat} (h : i < ls.length) :
    Text.extent (ls.modify i f) + (lineOf ls i).length =
      Text.extent ls + (f (lineOf ls i)).length := by
  have hl := Text.extent_eq ls i h
  have hm := Text.extent_eq (ls.modify i f) i (by rwa [List.length_modify])
  rw [take_modify_self, List.drop_modify_of_lt f i (i + 1) ls (by omega)] at hm
  have hi := lineOf_modify_self ls f h
  unfold lineOf at hi ⊢
  rw [hi] at hm
  omega

/-- A line that has a margin keeps its text when it is given that margin. -/
lemma modify_margin_self (i : Nat) {m : Margin} (h : marginOf (lineOf ls i) = m.chars) :
    (ls.modify i fun l => m.chars ++ contentOf l) = ls := by
  apply List.ext_getElem?
  intro j
  rw [List.getElem?_modify]
  split
  · next hij =>
    subst hij
    cases hl : ls[i]? with
    | none => rfl
    | some l =>
      rw [lineOf, hl, Option.getD_some] at h
      simp [← h]
  · simp

end Modify

/-- The outcome of work, and the page it leaves. -/
def Edit.Turns {α : Type} (b : Buffer) (work : Edit α) (r : Except Fault α × Page) : Prop :=
  ∃ b', perform b work = (r.1, b') ∧ b.Evolves b' ∧ b'.document.page = r.2

namespace Edit

variable {α β : Type} {b : Buffer}

lemma Answers.turns {work : Edit α} {r : Except Fault α} (h : Answers b work r) :
    Turns b work (r, b.document.page) := by
  obtain ⟨b', hp, hr⟩ := h
  exact ⟨b', hp, hr.toEvolves, congrArg₂ Page.mk hr.lines hr.cursor⟩

namespace Turns

lemma pure {p : Page} (hp : b.document.page = p) (a : α) :
    Turns b (Pure.pure a) (.ok a, p) := ⟨b, rfl, .refl b, hp⟩

lemma lift {p : Page} (hp : b.document.page = p) (x : Except Fault α) :
    Turns b (liftM x) (x, p) := ⟨b, rfl, .refl b, hp⟩

lemma document {p : Page} (hp : b.document.page = p) :
    Turns b Edit.document (.ok b.document, p) := ⟨b, rfl, .refl b, hp⟩

lemma modify {f : Buffer → Buffer} (h : b.Evolves (f b)) :
    Turns b (modifyThe Buffer f : Edit PUnit) (.ok ⟨⟩, (f b).document.page) := ⟨f b, rfl, h, rfl⟩

lemma bind {work : Edit α} {next : α → Edit β} {a : α} {p : Page} {r : Except Fault β × Page}
    (h : Turns b work (.ok a, p))
    (hn : ∀ b', b.Evolves b' → b'.document.page = p → Turns b' (next a) r) :
    Turns b (work >>= next) r := by
  obtain ⟨b', hp, he, hpage⟩ := h
  obtain ⟨b'', hp', he', hpage'⟩ := hn b' he hpage
  exact ⟨b'', by rw [perform_bind_ok hp, hp'], he.trans he', hpage'⟩

lemma map {work : Edit α} {r : Except Fault α × Page} (f : α → β) (h : Turns b work r) :
    Turns b (do return f (← work)) (r.1.map f, r.2) := by
  obtain ⟨b', hp, he, hpage⟩ := h
  refine ⟨b', ?_, he, hpage⟩
  obtain ⟨r, q⟩ := r
  cases r with
  | error fault => exact perform_bind_error hp _
  | ok a => exact perform_bind_ok hp _

lemma bind_error {work : Edit α} (next : α → Edit β) {f : Fault} {p : Page}
    (h : Turns b work (.error f, p)) : Turns b (work >>= next) (.error f, p) := by
  obtain ⟨b', hp, he, hpage⟩ := h
  exact ⟨b', perform_bind_error hp next, he, hpage⟩

end Turns

/-- The margin is written unless it is there already. -/
lemma document_replaceUnless (b : Buffer) (i : Nat) (m : Margin) :
    let b' := if b.document.margin i ≠ m.chars then b.replaceMargin i m else b
    b.Evolves b' ∧ b'.document.page =
      ⟨b.document.lines.modify i fun l => m.chars ++ contentOf l, b.document.cursor⟩ := by
  intro b'
  by_cases hm : b.document.margin i = m.chars
  · have hb : b' = b := if_neg (not_not_intro hm)
    have hlines := modify_margin_self b.document.lines i hm
    rw [hb, hlines]
    exact ⟨.refl b, rfl⟩
  · have hb : b' = b.replaceMargin i m := if_pos hm
    rw [hb]
    refine ⟨evolves_replaceMargin b i m, ?_⟩
    rw [Buffer.replaceMargin, Buffer.document_changed, Document.page,
      Document.lines_replaceMargin, Document.cursor_replaceMargin]

lemma turns_lineStart {p : Page} (hp : b.document.page = p) {i : Nat} (hi : i < p.lines.length) :
    Turns b (lineStart i) (.ok (Text.extent (p.lines.take i)), p) := by
  subst hp
  exact (answers_lineStart hi).turns

lemma turns_marginEnd {p : Page} (hp : b.document.page = p) {i : Nat} (hi : i < p.lines.length) :
    Turns b (marginEnd i)
      (.ok (Text.extent (p.lines.take i) + (marginOf (lineOf p.lines i)).length), p) := by
  subst hp
  exact (answers_marginEnd hi).turns

lemma turns_moveCursor {p : Page} (hp : b.document.page = p) (n : Int) :
    Turns b (moveCursor n) (.ok ⟨⟩, ⟨p.lines, min n.toNat (Text.extent p.lines - 1)⟩) := by
  subst hp
  have hlen := b.document.length_succ
  refine ⟨b.moveCursor n, rfl, evolves_moveCursor b n, congrArg (Page.mk _) ?_⟩
  change min n.toNat b.document.length = min n.toNat (Text.extent b.document.lines - 1)
  omega

/-- Where the cursor goes once line `i` has its margin. -/
lemma turns_cursor {ls : List (List Char)} {cursor length i : Nat} {m : Margin}
    (hp : b.document.page = ⟨ls.modify i fun l => m.chars ++ contentOf l, cursor⟩)
    (hi : i < ls.length) (hlength : length + 1 = Text.extent ls) :
    Turns b
      (if cursor < Text.extent (ls.take i) then pure ()
      else if cursor < Text.extent (ls.take i) + (marginOf (lineOf ls i)).length then do
        moveCursor (← marginEnd i)
      else do moveCursor ((← document).length - (length - cursor : Int)))
      (.ok ⟨⟩, Page.place ⟨ls, cursor⟩ i m) := by
  have hline := lineOf_modify_self ls (fun l => m.chars ++ contentOf l) hi
  have hextent := extent_modify ls (fun l => m.chars ++ contentOf l) hi
  have hparts := congrArg List.length (marginOf_append_contentOf (lineOf ls i))
  have hall := Text.extent_eq ls i hi
  have hget : ls[i]?.getD [] = lineOf ls i := rfl
  rw [hget] at hall
  rw [List.length_append] at hextent hparts
  unfold Page.place
  dsimp only
  by_cases hstart : cursor < Text.extent (ls.take i)
  · rw [if_pos hstart, if_pos hstart]
    exact .pure hp _
  rw [if_neg hstart, if_neg hstart]
  by_cases hstop : cursor < Text.extent (ls.take i) + (marginOf (lineOf ls i)).length
  · rw [if_pos hstop, if_pos hstop]
    refine (turns_marginEnd hp (by rwa [List.length_modify])).bind fun b' _ hp' => ?_
    have hmove := turns_moveCursor hp' (Text.extent (ls.take i) + m.chars.length : Nat)
    dsimp only at hmove ⊢
    rw [take_modify_self, hline, m.marginOf_append, marginOf_contentOf, List.append_nil]
    rwa [Int.toNat_natCast, Nat.min_eq_left (by omega)] at hmove
  · rw [if_neg hstop, if_neg hstop]
    refine (Turns.document hp).bind fun b' _ hp' => ?_
    have hlines : b.document.lines = _ := congrArg Page.lines hp
    have hnew := b.document.length_succ
    rw [hlines] at hnew
    dsimp only at hnew
    have hmove := turns_moveCursor hp' (b.document.length - (length - cursor : Int))
    dsimp only at hmove
    rwa [show (b.document.length - (length - cursor : Int)).toNat =
      cursor + m.chars.length - (marginOf (lineOf ls i)).length by omega] at hmove

/-- Giving a line a margin turns the page as told, or there is no room for the line. -/
theorem turns_setMargin [Memory] {i : Nat} (hi : i < b.document.lineCount) (m : Margin) :
    Turns b (setMargin i m) (b.document.page.write i m) := by
  refine (Turns.document rfl).bind fun b₁ _ h₁ => ?_
  refine (turns_lineStart h₁ hi).bind fun b₂ _ h₂ => ?_
  refine (turns_marginEnd h₂ hi).bind fun b₃ _ h₃ => ?_
  have hlength : Text.extent (b.document.page.lines.take i) + m.chars.length +
      (contentOf (b.document.line i)).length = b.document.page.lengthTo i m := rfl
  rw [hlength, Page.write]
  generalize Memory.check (b.document.page.lengthTo i m) = room
  cases room with
  | error f => exact (Turns.lift h₃ (.error f)).bind_error _
  | ok u =>
    refine (Turns.lift h₃ (.ok u)).bind fun b₄ _ h₄ => ?_
    obtain ⟨he, h₅⟩ := document_replaceUnless b₄ i m
    rw [show b₄.document.lines = _ from congrArg Page.lines h₄,
      show b₄.document.cursor = _ from congrArg Page.cursor h₄] at h₅
    refine (Turns.modify he).bind fun b₅ _ h₆ => ?_
    exact turns_cursor (h₆.trans h₅) hi b.document.length_succ

end Edit
end SqlMargin
