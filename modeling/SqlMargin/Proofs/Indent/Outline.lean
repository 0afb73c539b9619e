import SqlMargin.Proofs.Indent.Columns
import SqlMargin.Proofs.Indent.Continuation
import SqlMargin.Proofs.Lexical.LineStates

/-! Outlines: what the level of a line follows from, read off the lines themselves without a buffer
or a classifier. Nothing in an outline sees a margin. -/
namespace SqlMargin.Outline
open Lexical (lineState scan)

/-- Line `i`, empty past the last line. -/
def lineOf (ls : List (List Char)) (i : Nat) : List Char := ls[i]?.getD []

/-- What follows the margin of line `i`, unless the line is blank or starts in a literal. -/
def code? (e : Bool) (ls : List (List Char)) (i : Nat) : Option (List Char) :=
  if Text.allBlank (lineOf ls i) || (lineState e ls i).isLiteral then none
  else some (contentOf (lineOf ls i))

/-- Whether the first word of a text is a keyword, in any case. -/
def leads (keywords : List String) (s : List Char) : Bool :=
  keywords.contains (String.ofList (Text.lower (Text.firstWord s)))

def hasKeyword (s : Style) (ls : List (List Char)) (i : Nat) : Bool :=
  (code? s.escapes ls i).any (leads s.keywords)

def hasCloser (e : Bool) (ls : List (List Char)) (i : Nat) : Bool :=
  (code? e ls i).any startsCloser

/-- The nearest line above line `i` that is not blank. -/
def above? (ls : List (List Char)) (i : Nat) : Option Nat := Document.lastCode none 0 i ls

/-- Whether line `j`, which is not blank, ends in code with what asks for a deeper line. -/
def opens (e : Bool) (ls : List (List Char)) (j : Nat) : Bool :=
  (continuation? (Text.trimRight (lineOf ls j))).any fun k =>
    !(scan e (lineState e ls j) ((lineOf ls j).take k)).isLiteral

/-- The change of level, given how many parentheses were opened, whether the line above and the line
itself have keywords, whether the line above asks for a deeper line, and whether the line closes. -/
def change (opened : Int) (after here asks closes : Bool) : Int :=
  let changed := opened + (if after then 1 else 0) - (if here then 1 else 0)
  let raised := if changed < 1 ∧ asks then changed + 1 else changed
  if 0 ≤ raised ∧ closes then raised - 1 else raised

/-- The change of level from line `j` to line `i`: parentheses, keywords, then continuations and
closers. -/
def delta (s : Style) (ls : List (List Char)) (j i : Nat) : Int :=
  let opened := (lineState s.escapes ls i).depth - (lineState s.escapes ls j).depth
  let changed :=
    opened + (if hasKeyword s ls j then 1 else 0) - (if hasKeyword s ls i then 1 else 0)
  let raised :=
    if changed < 1 ∧ (above? ls i).any (opens s.escapes ls) then changed + 1 else changed
  if 0 ≤ raised ∧ hasCloser s.escapes ls i then raised - 1 else raised

/-- The state before a position: that of scanning the text up to it. -/
def stateBefore (e : Bool) (ls : List (List Char)) (p : Int) : Lexical.State :=
  scan e {} ((Text.joinLines ls).take p.toNat)

/-- The change of level of line `i`, counted from a position in line `j`. -/
def deltaFrom (s : Style) (ls : List (List Char)) (p : Int) (j i : Nat) : Int :=
  change ((lineState s.escapes ls i).depth - (stateBefore s.escapes ls p).depth)
    (hasKeyword s ls j) (hasKeyword s ls i) ((above? ls i).any (opens s.escapes ls))
    (hasCloser s.escapes ls i)

/-- Columns of the line above line `i`, none if there is no such line. -/
def indentAbove (s : Style) (ls : List (List Char)) (i : Nat) : Nat :=
  (above? ls i).elim 0 fun j => columns s.tabWidth (lineOf ls j)

/-- The level of line `i`. With only blank lines above it is counted from the first line. -/
def level (s : Style) (ls : List (List Char)) (i : Nat) : Level Int :=
  ⟨delta s ls ((above? ls i).getD 0) i, indentAbove s ls i⟩

variable (e : Bool) (s : Style) (ls : List (List Char))

lemma delta_eq_change (j i : Nat) :
    delta s ls j i = change ((lineState s.escapes ls i).depth - (lineState s.escapes ls j).depth)
      (hasKeyword s ls j) (hasKeyword s ls i) ((above? ls i).any (opens s.escapes ls))
      (hasCloser s.escapes ls i) := rfl

/-- The state before a column of a line. -/
lemma stateBefore_column {i c : Nat} (hi : i < ls.length) (hc : c ≤ (lineOf ls i).length) :
    stateBefore e ls (Text.extent (ls.take i) + c : Nat) =
      scan e (lineState e ls i) ((lineOf ls i).take c) := by
  rw [stateBefore, Int.toNat_natCast, Text.take_joinLines ls i c hi hc, Lexical.scan_ended_append]
  rfl

lemma stateBefore_lineStart {i : Nat} (hi : i < ls.length) :
    stateBefore e ls (Text.extent (ls.take i) : Nat) = lineState e ls i :=
  stateBefore_column e ls hi (Nat.zero_le _)

/-- Counted from the start of a line, the change is the one from that line. -/
lemma deltaFrom_lineStart {j : Nat} (hj : j < ls.length) (i : Nat) :
    deltaFrom s ls (Text.extent (ls.take j) : Nat) j i = delta s ls j i := by
  rw [deltaFrom, stateBefore_lineStart s.escapes ls hj]
  rfl

/-! Lines without their margins have the same outline, except for the columns above. -/

lemma lineOf_contents (i : Nat) : lineOf (ls.map contentOf) i = contentOf (lineOf ls i) := by
  unfold lineOf
  rw [List.getElem?_map]
  cases ls[i]? with
  | none => rfl
  | some l => rfl

lemma code?_contents (i : Nat) : code? e (ls.map contentOf) i = code? e ls i := by
  unfold code?
  rw [lineOf_contents, Lexical.lineState_contents, Text.allBlank_contentOf, contentOf_contentOf]

lemma hasKeyword_contents (i : Nat) : hasKeyword s (ls.map contentOf) i = hasKeyword s ls i := by
  rw [hasKeyword, code?_contents, hasKeyword]

lemma hasCloser_contents (i : Nat) : hasCloser e (ls.map contentOf) i = hasCloser e ls i := by
  rw [hasCloser, code?_contents, hasCloser]

lemma code?_eq_some {i : Nat} {c : List Char} (h : code? e ls i = some c) :
    Text.allBlank (lineOf ls i) = false ∧ c = contentOf (lineOf ls i) := by
  unfold code? at h
  split at h
  · cases h
  · next hc =>
    cases h
    rw [Bool.or_eq_true, not_or] at hc
    exact ⟨eq_false_of_ne_true hc.1, rfl⟩

lemma above?_succ (i : Nat) :
    above? ls (i + 1) = if Text.allBlank (lineOf ls i) then above? ls i else some i := by
  unfold above? lineOf
  rw [Document.lastCode_succ, Nat.zero_add]

lemma above?_contents (i : Nat) : above? (ls.map contentOf) i = above? ls i := by
  induction i with
  | zero => simp [above?, Document.lastCode]
  | succ i ih => rw [above?_succ, above?_succ, ih, lineOf_contents, Text.allBlank_contentOf]

/-- The line above is above and not blank. -/
lemma above?_spec {i j : Nat} (h : above? ls i = some j) :
    j < i ∧ Text.allBlank (lineOf ls j) = false := by
  induction i with
  | zero => simp [above?, Document.lastCode] at h
  | succ i ih =>
    rw [above?_succ] at h
    split at h
    · have ih := ih h
      exact ⟨by omega, ih.2⟩
    · next hb =>
      cases h
      exact ⟨Nat.lt_succ_self _, by simpa using hb⟩

lemma getD_above?_le (i : Nat) : (above? ls i).getD 0 ≤ i := by
  cases hj : above? ls i with
  | none => exact Nat.zero_le i
  | some j => exact Nat.le_of_lt (above?_spec ls hj).1

lemma lastCode_take (found : Option Nat) (i n : Nat) (ls : List (List Char)) :
    Document.lastCode found i n (ls.take n) = Document.lastCode found i n ls := by
  induction ls generalizing found i n with
  | nil => rw [List.take_nil]
  | cons l ls ih =>
    cases n with
    | zero => rfl
    | succ n => exact ih _ _ n

/-- What is above a line hangs on the lines above only. -/
lemma above?_congr {ls ms : List (List Char)} {i : Nat} (h : ls.take i = ms.take i) :
    above? ls i = above? ms i := by
  unfold above?
  rw [← lastCode_take, h, lastCode_take]

lemma lineOf_congr {ls ms : List (List Char)} {i j : Nat} (h : ls.take i = ms.take i)
    (hj : j < i) : lineOf ls j = lineOf ms j := by
  unfold lineOf
  rw [← List.getElem?_take_of_lt hj, h, List.getElem?_take_of_lt hj]

lemma continues_margin {st : Lexical.State} (hn : st.Natural) {m c : List Char}
    (hm : ∀ c ∈ m, isIndent c = true) (h : Text.allBlank c = false) :
    ((continuation? (Text.trimRight (m ++ c))).any fun k =>
        !(scan e st ((m ++ c).take k)).isLiteral) =
      (continuation? (Text.trimRight c)).any fun k => !(scan e st (c.take k)).isLiteral := by
  rw [Text.trimRight_append _ _ h, continuation?_append _ _ hm (Text.trimRight_ne_nil h),
    Option.any_map]
  congr 1
  funext k
  rw [List.take_length_add_append, Lexical.scan_margin hn e m _ hm]

lemma opens_contents {j : Nat} (h : Text.allBlank (lineOf ls j) = false) :
    opens e (ls.map contentOf) j = opens e ls j := by
  rw [← Text.allBlank_contentOf] at h
  have hl := continues_margin e (Lexical.natural_lineState e ls j)
    (List.all_eq_true.1 List.all_takeWhile) (m := marginOf (lineOf ls j)) h
  rw [marginOf_append_contentOf] at hl
  unfold opens
  rw [Lexical.lineState_contents, lineOf_contents, hl]

/-- The change of level does not see margins. -/
theorem delta_contents (j i : Nat) : delta s (ls.map contentOf) j i = delta s ls j i := by
  have habove : (above? ls i).any (opens s.escapes (ls.map contentOf)) =
      (above? ls i).any (opens s.escapes ls) := by
    cases h : above? ls i with
    | none => rfl
    | some k => exact opens_contents _ _ (above?_spec ls h).2
  unfold delta
  simp only [Lexical.lineState_contents, hasKeyword_contents, hasCloser_contents, above?_contents,
    habove]

end SqlMargin.Outline
