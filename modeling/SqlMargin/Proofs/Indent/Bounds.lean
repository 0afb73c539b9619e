import SqlMargin.Proofs.Indent.Carry
import SqlMargin.Proofs.Lexical.Depth

/-! How far to the right a pass can put a line. Each level takes a character: a parenthesis opens
it, or the line above, which is not blank, asks for it. So no line goes further than an offset for
each character before it, and no text is refused for whose lines there is as much room. -/
namespace SqlMargin

namespace Outline
open Lexical (lineState scan)

/-- From one line to another no more parentheses are opened than the lines have characters, their
line feeds not counted. -/
lemma depth_lineState_le (e : Bool) (ls : List (List Char)) {j i : Nat} (hji : j ≤ i)
    (hi : i ≤ ls.length) :
    (lineState e ls i).depth + i + Text.extent (ls.take j) ≤
      (lineState e ls j).depth + j + Text.extent (ls.take i) := by
  induction i, hji using Nat.le_induction with
  | base => omega
  | succ i hji ih =>
    have ih := ih (by omega)
    have hscan := (Lexical.depth_scanFrom e false (lineState e ls i) (lineOf ls i ++ ['\n'])).2
    have hcount : (lineOf ls i ++ ['\n']).count '(' ≤ (lineOf ls i).length := by
      rw [List.count_append]
      simpa using List.count_le_length
    have hextent := Text.extent_take_succ ls i hi
    have hstate := lineState_succ ls e hi
    rw [scan] at hstate
    rw [hstate]
    unfold lineOf at hscan hcount ⊢
    push_cast
    omega

lemma change_le (opened : Int) (after here asks closes : Bool) :
    change opened after here asks closes ≤ max 0 opened + 1 := by
  unfold change
  cases after <;> cases here <;> simp only [Bool.false_eq_true, if_true, if_false] <;>
    split <;> split <;> omega

lemma count_parentheses_le (t : List Char) : t.count '(' + t.count ')' ≤ t.length := by
  have hother : t.count ')' ≤ t.countP fun c => decide ¬(c == '(') = true := by
    apply List.countP_mono_left
    intro c _ hc
    rw [beq_iff_eq] at hc
    subst hc
    decide
  rw [List.length_eq_countP_add_countP (fun c => c == '(')]
  exact Nat.add_le_add_left hother _

/-- No more parentheses are opened or closed before a position than the text has characters. -/
lemma depth_stateBefore_sub (e : Bool) (ls : List (List Char)) (p q : Int) :
    (stateBefore e ls q).depth - (stateBefore e ls p).depth ≤ (Text.joinLines ls).length := by
  have hopened := (Lexical.depth_scanFrom e false {} ((Text.joinLines ls).take q.toNat)).2
  have hclosed := (Lexical.depth_scanFrom e false {} ((Text.joinLines ls).take p.toNat)).1
  have hcount : ((Text.joinLines ls).take q.toNat).count '(' +
      ((Text.joinLines ls).take p.toNat).count ')' ≤ (Text.joinLines ls).length := by
    have hq := (List.take_sublist q.toNat (Text.joinLines ls)).count_le '('
    have hp := (List.take_sublist p.toNat (Text.joinLines ls)).count_le ')'
    have hboth := count_parentheses_le (Text.joinLines ls)
    omega
  change (Lexical.scanFrom e false {} _).depth - (Lexical.scanFrom e false {} _).depth ≤ _
  omega

/-- Whatever a level is counted from, it rises by no more than one above the characters there
are. -/
lemma deltaFrom_le (s : Style) {ls : List (List Char)} {i : Nat} (hi : i < ls.length) (p : Int)
    (j : Nat) : deltaFrom s ls p j i ≤ (Text.joinLines ls).length + 1 := by
  have hchange := change_le ((lineState s.escapes ls i).depth - (stateBefore s.escapes ls p).depth)
    (hasKeyword s ls j) (hasKeyword s ls i) ((above? ls i).any (opens s.escapes ls))
    (hasCloser s.escapes ls i)
  have hdepth := depth_stateBefore_sub s.escapes ls p (Text.extent (ls.take i) : Nat)
  rw [stateBefore_lineStart s.escapes ls hi] at hdepth
  unfold deltaFrom
  omega

lemma columnsFrom_le {w : Nat} (hw : 0 < w) (n : Nat) (l : List Char) :
    columnsFrom w n l ≤ n + w * l.length := by
  induction l generalizing n with
  | nil => exact Nat.le_add_right ..
  | cons c l ih =>
    have hlength : w * (c :: l).length = w * l.length + w := Nat.mul_succ ..
    rw [columnsFrom]
    split
    · have hspace := ih (n + 1)
      omega
    · split
      · have hstop : (n / w + 1) * w ≤ n + w := by
          have hdiv := Nat.div_mul_le_self n w
          rw [Nat.add_one_mul]
          omega
        have htab := ih ((n / w + 1) * w)
        omega
      · exact Nat.le_add_right ..

/-- A line above takes no more columns than a tab for each character of the text. -/
lemma indentAbove_le (s : Style) {ls : List (List Char)} {i : Nat} (hi : i < ls.length) :
    indentAbove s ls i ≤ s.tabWidth * (Text.joinLines ls).length := by
  unfold indentAbove
  cases hj : above? ls i with
  | none => exact Nat.zero_le _
  | some j =>
    have hlt := (above?_spec ls hj).1
    have hcolumns := columnsFrom_le s.tabWidth_pos 0 (lineOf ls j)
    have hline : (lineOf ls j).length ≤ (Text.joinLines ls).length := by
      have hextent := Text.extent_eq ls j (by omega)
      have hall := Text.length_joinLines ls (List.ne_nil_of_length_pos (by omega))
      change Text.extent ls = _ + (lineOf ls j).length + 1 + _ at hextent
      omega
    have hmul := Nat.mul_le_mul_left s.tabWidth hline
    change columnsFrom s.tabWidth 0 (lineOf ls j) ≤ _
    omega

/-- No line goes further to the right than an offset for each character before it. -/
theorem placed_le (s : Style) (ls : List (List Char)) {i : Nat} (hi : i ≤ ls.length) :
    placed s ls i ≤ s.offset * Text.extent (ls.take i) := by
  induction i using Nat.strongRecOn with
  | _ i ih =>
    cases h : above? ls i with
    | none =>
      rw [placed_of_above?_none s ls hi h]
      exact Nat.zero_le _
    | some j =>
      have hlt := (above?_spec ls h).1
      have hprevious := ih j hlt (by omega)
      have hdepth := depth_lineState_le s.escapes ls (Nat.le_of_lt hlt) hi
      have hextent : Text.extent (ls.take j) < Text.extent (ls.take i) := by
        have hsucc := Text.extent_take_succ ls j (by omega)
        have hmono : Text.extent (ls.take (j + 1)) ≤ Text.extent (ls.take i) :=
          Text.extent_take_mono ls hlt
        omega
      have hdelta : delta s ls j i ≤ Text.extent (ls.take i) - Text.extent (ls.take j) := by
        have hle := change_le ((lineState s.escapes ls i).depth - (lineState s.escapes ls j).depth)
          (hasKeyword s ls j) (hasKeyword s ls i) ((above? ls i).any (opens s.escapes ls))
          (hasCloser s.escapes ls i)
        rw [← delta_eq_change] at hle
        omega
      have hstep : (s.offset : Int) * delta s ls j i ≤
          s.offset * Text.extent (ls.take i) - s.offset * Text.extent (ls.take j) := by
        rw [← Int.mul_sub]
        exact Int.mul_le_mul_of_nonneg_left hdelta (Int.natCast_nonneg _)
      rw [placed_eq, placedLevel, placedAbove, h, Style.newIndent]
      simp only [Option.getD_some, Option.elim_some]
      apply Int.toNat_le.2
      have hprevious : (placed s ls j : Int) ≤ s.offset * Text.extent (ls.take j) := by
        exact_mod_cast hprevious
      push_cast
      omega

/-- The lines that a pass leaves are longer than those it is given by no more than an offset for
each character of the text in each line. -/
lemma extent_take_layout_le (s : Style) {ls : List (List Char)} {length : Nat}
    (hlength : length + 1 = Text.extent ls) {n : Nat} (hn : n ≤ ls.length) :
    Text.extent ((layout s ls).take n) ≤ n * (s.offset * length) + Text.extent (ls.take n) := by
  induction n with
  | zero => exact Nat.zero_le _
  | succ n ih =>
    have ih := ih (by omega)
    have hbefore : Text.extent (ls.take n) ≤ length := by
      have heq := Text.extent_eq ls n hn
      omega
    have hplaced := (placed_le s ls (Nat.le_of_succ_le hn)).trans
      (Nat.mul_le_mul_left s.offset hbefore)
    have hmargin : (marginAt s ls n).chars.length ≤ placed s ls n := by
      unfold marginAt
      split
      · exact Nat.zero_le _
      · exact s.length_render_le _
    have hcontent : (contentOf (lineOf ls n)).length ≤ (lineOf ls n).length :=
      (List.dropWhile_suffix _).length_le
    have hlong := lengthTo_layout s ls hn
    have hstep := Text.extent_take_succ ls n hn
    have hsame : contentOf (lineOf (layout s ls) n) = contentOf (lineOf ls n) := by
      rw [lineOf_layout s ls hn, Margin.contentOf_append, contentOf_contentOf]
    change _ = _ + (lineOf ls n).length + 1 at hstep
    rw [Page.lengthTo, hsame] at hlong
    dsimp only at hlong
    rw [Nat.add_one_mul]
    omega

section Memory

variable [Memory]

/-- There is room for all lines if there is for an offset for each character of the text in each
line. -/
lemma allFit_of_le {s : Style} {ls : List (List Char)} {length : Nat}
    (hlength : length + 1 = Text.extent ls)
    (h : ls.length * (s.offset * length) + length ≤ Memory.room) :
    allFit s ls 0 ls.length = .ok () := by
  have hextent := extent_take_layout_le s hlength (Nat.le_refl ls.length)
  rw [List.take_of_length_le (by rw [length_layout]), List.take_of_length_le (Nat.le_refl _),
    ← hlength] at hextent
  rw [allFit_eq_ok_iff]
  omega

end Memory
end Outline

/-- A text is indented if there is room for an offset for each of its characters in each line. -/
theorem indentText_ok_of_le [Memory] {settings : Settings} {s : Style} (hs : settings.style = .ok s)
    {t : List Char}
    (h : (Text.splitLines t).length * (s.offset * t.length) + t.length ≤ Memory.room) :
    ∃ u, indentText settings t = .ok u := by
  rw [indentText_layout hs, Outline.allFit_of_le (Text.extent_splitLines t).symm h]
  exact ⟨_, rfl⟩

end SqlMargin
