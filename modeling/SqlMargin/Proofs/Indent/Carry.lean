import SqlMargin.Proofs.Indent.Layout
import SqlMargin.Proofs.Lexical.Hidden

/-! What a pass carries from line to line: the lexical state at the start of the next line, and what
matters of the line above. A line is placed by this and by what it holds. Blank lines leave what is
carried as it is, so a pass over lines without the blank ones meets the others just the same. -/
namespace SqlMargin.Outline
open Lexical (State lineState scan)

/-- What matters of the line above. -/
structure Above where
  depth : Int
  keyword : Bool
  opens : Bool
  placed : Nat

/-- What is carried to the next line. -/
@[ext] structure Carry where
  state : State := {}
  above : Option Above := none

namespace Carry

def code? (k : Carry) (l : List Char) : Option (List Char) :=
  if Text.allBlank l || k.state.isLiteral then none else some (contentOf l)

def keyword (s : Style) (k : Carry) (l : List Char) : Bool := (k.code? l).any (leads s.keywords)

def closer (k : Carry) (l : List Char) : Bool := (k.code? l).any startsCloser

def opens (s : Style) (k : Carry) (l : List Char) : Bool :=
  (continuation? (Text.trimRight l)).any fun n => !(scan s.escapes k.state (l.take n)).isLiteral

/-- Columns at which the next line goes; the first line that is not blank goes to the left. -/
def place (s : Style) (k : Carry) (l : List Char) : Nat :=
  k.above.elim 0 fun a =>
    s.newIndent ⟨change (k.state.depth - a.depth) a.keyword (k.keyword s l) a.opens (k.closer l),
      a.placed⟩

/-- What is carried on from a line. -/
def next (s : Style) (k : Carry) (l : List Char) : Carry where
  state := scan s.escapes k.state (l ++ ['\n'])
  above := if Text.allBlank l then k.above
    else some ⟨k.state.depth, k.keyword s l, k.opens s l, k.place s l⟩

/-- Lines, each with what is carried to it. -/
def visits (s : Style) : Carry → List (List Char) → List (Carry × List Char)
  | _, [] => []
  | k, l :: ls => (k, l) :: visits s (k.next s l) ls

/-- The line that a pass leaves. -/
def line (s : Style) (v : Carry × List Char) : List Char :=
  (if Text.allBlank v.2 && !s.blankLines then .empty else s.render (v.1.place s v.2)).chars ++
    contentOf v.2

end Carry

/-- What a pass carries to line `i`. -/
def carryAt (s : Style) (ls : List (List Char)) (i : Nat) : Carry where
  state := lineState s.escapes ls i
  above := (above? ls i).map fun j =>
    ⟨(lineState s.escapes ls j).depth, hasKeyword s ls j, opens s.escapes ls j, placed s ls j⟩

variable (s : Style) (ls : List (List Char))

lemma lineState_succ (e : Bool) {i : Nat} (hi : i < ls.length) :
    lineState e ls (i + 1) = scan e (lineState e ls i) (lineOf ls i ++ ['\n']) := by
  unfold lineState Lexical.afterLines lineOf
  rw [List.take_add_one, List.getElem?_eq_getElem hi, List.foldl_append]
  rfl

lemma allBlank_of_above?_none {i : Nat} (h : above? ls i = none) {j : Nat} (hj : j < i) :
    Text.allBlank (lineOf ls j) = true := by
  induction i with
  | zero => omega
  | succ i ih =>
    rw [above?_succ] at h
    split at h
    · next hb =>
      rcases Nat.lt_succ_iff_lt_or_eq.1 hj with hj | rfl
      · exact ih h hj
      · exact hb
    · cases h

/-- A blank line leaves the state as it is, outside line comments. -/
lemma scan_blank_line {st : State} (hn : st.Natural) (hc : st.context ≠ .lineComment) (e : Bool)
    {l : List Char} (h : Text.allBlank l = true) : scan e st (l ++ ['\n']) = st := by
  have hblank : ∀ c ∈ l ++ ['\n'], Text.isBlank c = true := by
    intro c hc
    rcases List.mem_append.1 hc with hc | hc
    · exact List.all_eq_true.1 h c hc
    · rw [List.mem_singleton.1 hc]
      decide
  have hs := Lexical.scan_blank_append hn hc e _ [] hblank
  rwa [List.append_nil, Lexical.scan_nil] at hs

/-- With only blank lines above, the state is still that of the start. -/
lemma lineState_of_above?_none {i : Nat} (hi : i ≤ ls.length) (h : above? ls i = none) (e : Bool) :
    lineState e ls i = {} := by
  induction i with
  | zero => rfl
  | succ i ih =>
    have hblank := allBlank_of_above?_none ls h (Nat.lt_succ_self i)
    rw [above?_succ, if_pos hblank] at h
    rw [lineState_succ ls e hi, ih (by omega) h]
    exact scan_blank_line Lexical.natural_default (by simp) e hblank

/-- With no parentheses opened and nothing that asks for a deeper line, the level does not rise,
unless a keyword above is not made up for by one in the line. -/
lemma change_nonpos (after here closes : Bool) (h : after = true → here = true) :
    change 0 after here false closes ≤ 0 := by
  unfold change
  cases after with
  | false => cases here <;> cases closes <;> decide
  | true =>
    rw [h rfl]
    cases closes <;> decide

/-- With only blank lines above, a line goes to the left. -/
lemma placed_of_above?_none {i : Nat} (hi : i ≤ ls.length) (h : above? ls i = none) :
    placed s ls i = 0 := by
  have hkeyword : hasKeyword s ls 0 = true → hasKeyword s ls i = true := by
    intro hk
    rcases Nat.eq_zero_or_pos i with rfl | hpos
    · exact hk
    · simp [hasKeyword, code?, allBlank_of_above?_none ls h hpos] at hk
  have hdelta : delta s ls 0 i ≤ 0 := by
    rw [delta_eq_change, lineState_of_above?_none ls hi h, h]
    exact change_nonpos _ _ _ hkeyword
  have hoffset : (s.offset : Int) * delta s ls 0 i ≤ 0 :=
    Int.mul_nonpos_of_nonneg_of_nonpos (Int.natCast_nonneg _) hdelta
  rw [placed_eq, placedLevel, placedAbove, h, Style.newIndent]
  simp only [Option.getD_none, Option.elim_none]
  omega

/-- A line is placed by what is carried to it. -/
lemma place_carryAt {i : Nat} (hi : i < ls.length) :
    (carryAt s ls i).place s (lineOf ls i) = placed s ls i := by
  cases h : above? ls i with
  | none =>
    rw [placed_of_above?_none s ls (Nat.le_of_lt hi) h]
    simp [Carry.place, carryAt, h]
  | some j =>
    rw [placed_eq, placedLevel, placedAbove, delta_eq_change, h]
    simp only [Carry.place, carryAt, h]
    rfl

lemma carryAt_succ {i : Nat} (hi : i < ls.length) :
    carryAt s ls (i + 1) = (carryAt s ls i).next s (lineOf ls i) := by
  apply Carry.ext
  · exact lineState_succ ls s.escapes hi
  · change (above? ls (i + 1)).map _ = if Text.allBlank (lineOf ls i) then _ else _
    rw [above?_succ, place_carryAt s ls hi]
    split
    · rfl
    · rfl

namespace Carry

lemma getElem?_visits (k : Carry) (i : Nat) :
    (visits s k ls)[i]? = ls[i]?.map fun l => ((ls.take i).foldl (next s) k, l) := by
  induction ls generalizing k i with
  | nil => rfl
  | cons l ls ih =>
    cases i with
    | zero => rfl
    | succ i => exact ih (k.next s l) i

lemma foldl_next {i : Nat} (hi : i ≤ ls.length) :
    (ls.take i).foldl (next s) {} = carryAt s ls i := by
  induction i with
  | zero => rfl
  | succ i ih =>
    have hline : ls[i]?.toList = [lineOf ls i] := by
      simp [lineOf, List.getElem?_eq_getElem (Nat.lt_of_succ_le hi)]
    rw [List.take_add_one, hline, List.foldl_append, ih (by omega), carryAt_succ s ls hi]
    rfl

/-- What is carried to the lines of a text is what a pass carries to them. -/
theorem visits_eq : visits s {} ls = ls.mapIdx fun i l => (carryAt s ls i, l) := by
  apply List.ext_getElem?
  intro i
  rw [getElem?_visits, List.getElem?_mapIdx]
  rcases Nat.lt_or_ge i ls.length with hi | hi
  · rw [List.getElem?_eq_getElem hi, foldl_next s ls (Nat.le_of_lt hi)]
  · rw [List.getElem?_eq_none hi]
    rfl

lemma line_carryAt {i : Nat} (hi : i < ls.length) :
    line s (carryAt s ls i, lineOf ls i) = (marginAt s ls i).chars ++ contentOf (lineOf ls i) := by
  rw [line, place_carryAt s ls hi]
  rfl

/-- The lines that a pass leaves, from what is carried to each. -/
theorem layout_eq : layout s ls = (visits s {} ls).map (line s) := by
  apply List.ext_getElem?
  intro i
  rw [visits_eq, layout, List.getElem?_map, List.getElem?_mapIdx, List.getElem?_mapIdx]
  rcases Nat.lt_or_ge i ls.length with hi | hi
  · have hline := line_carryAt s ls hi
    rw [lineOf, List.getElem?_eq_getElem hi, Option.getD_some] at hline
    rw [List.getElem?_eq_getElem hi, Option.map_some, Option.map_some, Option.map_some, hline]
  · rw [List.getElem?_eq_none hi]
    rfl

/-- What scanning can have reached at the start of a line. -/
structure Steady (k : Carry) : Prop where
  natural : k.state.Natural
  context_ne : k.state.context ≠ .lineComment

lemma steady_default : Steady {} := ⟨Lexical.natural_default, by simp⟩

lemma Steady.next {k : Carry} (h : k.Steady) (s : Style) (l : List Char) : (k.next s l).Steady :=
  ⟨h.natural.scan s.escapes _, Lexical.context_scan_newline_ne s.escapes _ l⟩

/-- Nothing is carried on from a blank line but what was carried to it. -/
lemma Steady.next_blank {k : Carry} (h : k.Steady) (s : Style) {l : List Char}
    (hl : Text.allBlank l = true) : k.next s l = k := by
  apply Carry.ext
  · exact scan_blank_line h.natural h.context_ne s.escapes hl
  · exact if_pos hl

/-- Without the blank lines, the same is carried to the others. -/
theorem Steady.visits_filter {k : Carry} (h : k.Steady) :
    visits s k (ls.filter fun l => !Text.allBlank l) =
      (visits s k ls).filter fun v => !Text.allBlank v.2 := by
  induction ls generalizing k with
  | nil => rfl
  | cons l ls ih =>
    cases hl : Text.allBlank l with
    | true =>
      rw [visits, List.filter_cons_of_neg (by simp [hl]), List.filter_cons_of_neg (by simp [hl]),
        h.next_blank s hl]
      exact ih h
    | false =>
      rw [visits, List.filter_cons_of_pos (by simp [hl]), List.filter_cons_of_pos (by simp [hl]),
        visits, ih (h.next s l)]

end Carry
end SqlMargin.Outline
