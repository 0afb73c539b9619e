import Mathlib.Data.List.Basic
import Mathlib.Data.List.TakeWhile
import SqlMargin.Indent.Level
import SqlMargin.Proofs.Text.Lowering
import SqlMargin.Proofs.Text.Words

/-! How a text ends: with an opening parenthesis, or with THEN in any case as a word of its own. And
what a margin before a text leaves of it: trimming, lower case and the way it ends. A text ends as a
continuation with a margin before it exactly when it does without one, so many characters further
on. -/
namespace SqlMargin

/-- The two characters of margins. -/
lemma isIndent_iff (c : Char) : isIndent c = true ↔ c = ' ' ∨ c = '\t' := by simp [isIndent]

namespace Text

lemma isWordChar_of_isIndent {c : Char} (h : isIndent c = true) : isWordChar c = false := by
  rcases (isIndent_iff c).1 h with rfl | rfl <;> decide

lemma allBlank_of_isIndent {m : List Char} (hm : ∀ c ∈ m, isIndent c = true) :
    allBlank m = true :=
  List.all_eq_true.2 fun c hc => isBlank_of_isIndent (hm c hc)

/-- A line is blank when what follows its margin is. -/
@[simp] lemma allBlank_contentOf (l : List Char) : allBlank (contentOf l) = allBlank l := by
  have hm : allBlank (marginOf l) = true :=
    allBlank_of_isIndent (List.all_eq_true.1 List.all_takeWhile)
  have hl := allBlank_append (marginOf l) (contentOf l)
  rw [marginOf_append_contentOf, hm, Bool.true_and] at hl
  exact hl.symm

lemma dropWhile_isBlank_ne_nil {t : List Char} (h : allBlank t = false) :
    t.reverse.dropWhile isBlank ≠ [] := by
  intro he
  have hall := List.dropWhile_eq_nil_iff.1 he
  have ht : allBlank t = true := List.all_eq_true.2 fun c hc => hall c (List.mem_reverse.2 hc)
  rw [ht] at h
  cases h

lemma trimRight_append (s t : List Char) (h : allBlank t = false) :
    trimRight (s ++ t) = s ++ trimRight t := by
  have hne := List.isEmpty_eq_false_iff.2 (dropWhile_isBlank_ne_nil h)
  unfold trimRight
  rw [List.reverse_append, List.dropWhile_append, hne]
  simp

lemma trimRight_isPrefix (s : List Char) : trimRight s <+: s := by
  have h := List.reverse_prefix.2 (List.dropWhile_suffix isBlank (l := s.reverse))
  rwa [List.reverse_reverse] at h

lemma trimRight_ne_nil {t : List Char} (h : allBlank t = false) : trimRight t ≠ [] :=
  fun he => dropWhile_isBlank_ne_nil h (List.reverse_eq_nil_iff.1 he)

/-- A margin has no letters, and no letter after it is in the middle of a word. -/
lemma lower_append (m t : List Char) (hm : ∀ c ∈ m, isIndent c = true) :
    lower (m ++ t) = m ++ lower t := by
  induction m with
  | nil => rfl
  | cons c m ih =>
    have ih := ih fun x hx => hm x (List.mem_cons_of_mem c hx)
    have hl : lowerChar c = [c] := by
      rcases (isIndent_iff c).1 (hm c List.mem_cons_self) with rfl | rfl <;> decide
    have hc : isCased c = false := by
      rcases (isIndent_iff c).1 (hm c List.mem_cons_self) with rfl | rfl <;> decide
    have hs : c ≠ 'Σ' := by
      rcases (isIndent_iff c).1 (hm c List.mem_cons_self) with rfl | rfl <;> decide
    rw [List.cons_append, lower, lowerFrom, if_neg hs, hl, hc, ite_self]
    exact congrArg (c :: ·) ih

/-- A text whose lower case ends with a word is as long as the word, if the word is of plain
letters. -/
lemma length_le_of_isSuffix_lower {word t : List Char} (h : word <:+ lower t)
    (hw : ∀ c ∈ word, isOdd c = false) : word.length ≤ t.length := by
  obtain ⟨a, b, rfl, hb⟩ := (suffix_lower_iff hw).1 h
  rw [← hb.length_eq, List.length_append]
  omega

end Text

/-- No letter of the word can be one of the margin. -/
lemma isSuffix_margin_append {word m t : List Char} (hm : ∀ c ∈ m, isIndent c = true)
    (hw : ∀ c ∈ word, isIndent c = false) : word <:+ m ++ t ↔ word <:+ t := by
  refine ⟨fun h => ?_, fun h => h.trans (List.suffix_append m t)⟩
  rcases List.suffix_or_suffix_of_suffix h (List.suffix_append m t) with h' | ⟨x, rfl⟩
  · exact h'
  · obtain ⟨y, hy⟩ := h
    rw [← List.append_assoc, List.append_cancel_right_eq] at hy
    cases x with
    | nil => exact List.suffix_refl t
    | cons c x =>
      have hc := hm c (hy ▸ List.mem_append_right y List.mem_cons_self)
      rw [hw c (List.mem_append_left t List.mem_cons_self)] at hc
      cases hc

/-- A word that ends a text does so at the same place of it, whatever margin comes before. -/
lemma trailingWord?_append (word m t : List Char) (hm : ∀ c ∈ m, isIndent c = true)
    (hw : ∀ c ∈ word, isIndent c = false ∧ Text.isOdd c = false) :
    trailingWord? word (m ++ t) = (trailingWord? word t).map (m.length + ·) := by
  unfold trailingWord?
  simp only [List.isSuffixOf_iff_suffix, Text.lower_append m t hm,
    isSuffix_margin_append hm fun c hc => (hw c hc).1]
  by_cases hsuf : word <:+ Text.lower t
  · have hle := Text.length_le_of_isSuffix_lower hsuf fun c hc => (hw c hc).2
    have hstart : (m ++ t).length - word.length = m.length + (t.length - word.length) := by
      rw [List.length_append]
      omega
    simp only [if_pos hsuf, hstart]
    generalize t.length - word.length = start
    cases start with
    | succ n =>
      have hget : (m ++ t)[m.length + (n + 1) - 1]? = t[n]? := by
        rw [List.getElem?_append_right (by omega)]
        congr 1
        omega
      simp only [hget, Nat.add_sub_cancel]
      by_cases hc : (t[n]?).any Text.isWordChar <;> simp [hc]
    | zero =>
      -- The word is the whole text, so what stands before it, if anything, is the margin.
      have hbefore : ((m ++ t)[m.length - 1]?).any Text.isWordChar = false ∨ m.length = 0 := by
        rcases Nat.eq_zero_or_pos m.length with h0 | hpos
        · exact .inr h0
        · have hlt : m.length - 1 < m.length := by omega
          rw [List.getElem?_append_left hlt, List.getElem?_eq_getElem hlt]
          exact .inl (Text.isWordChar_of_isIndent (hm _ (List.getElem_mem hlt)))
      rcases hbefore with h | h <;> simp [h]
  · simp [hsuf]

/-- A text that is not empty ends as a continuation at the same place of it, whatever margin comes
before. -/
theorem continuation?_append (m t : List Char) (hm : ∀ c ∈ m, isIndent c = true) (ht : t ≠ []) :
    continuation? (m ++ t) = (continuation? t).map (m.length + ·) := by
  have hpos := List.length_pos_iff.2 ht
  unfold continuation?
  rw [List.getLast?_append_of_ne_nil m ht, trailingWord?_append _ m t hm
    (by simp [isIndent, Text.isOdd])]
  split
  · simp only [Option.map_some, List.length_append, Option.some.injEq]
    omega
  · rfl

/-- Where a word ends a text: at a spelling of it, with no identifier before. -/
lemma trailingWord?_eq_some_iff {word s : List Char} (hw : ∀ c ∈ word, Text.isOdd c = false)
    {k : Nat} :
    trailingWord? word s = some k ↔ ∃ a b, s = a ++ b ∧ List.Forall₂ Text.LowersTo b word ∧
      a.getLast?.any Text.isWordChar = false ∧ k = a.length := by
  have hcut : ∀ {a b : List Char}, List.Forall₂ Text.LowersTo b word →
      (a ++ b).length - word.length = a.length := by
    intro a b hb
    rw [List.length_append, hb.length_eq, Nat.add_sub_cancel]
  have hbefore : ∀ a b : List Char, (a.length ≠ 0 && ((a ++ b)[a.length - 1]?).any Text.isWordChar) =
      a.getLast?.any Text.isWordChar := by
    intro a b
    rcases List.eq_nil_or_concat a with rfl | ⟨a, c, rfl⟩
    · rfl
    · simp
  have hsuffix := List.isSuffixOf_iff_suffix.trans (Text.suffix_lower_iff (r := s) hw)
  unfold trailingWord?
  dsimp only
  constructor
  · intro h
    split at h
    · next hs =>
      obtain ⟨a, b, rfl, hb⟩ := hsuffix.1 hs
      rw [hcut hb, hbefore] at h
      split at h
      · cases h
      · next hword =>
        cases h
        exact ⟨a, b, rfl, hb, eq_false_of_ne_true hword, rfl⟩
    · cases h
  · rintro ⟨a, b, rfl, hb, hword, rfl⟩
    rw [if_pos (hsuffix.2 ⟨a, b, rfl, hb⟩), hcut hb, hbefore, hword]
    rfl

/-- What asks for a deeper line at the end of a text, after `a`: an opening parenthesis or THEN. -/
def Asks (a z : List Char) : Prop :=
  z = ['('] ∨
    List.Forall₂ Text.LowersTo z ['t', 'h', 'e', 'n'] ∧ a.getLast?.any Text.isWordChar = false

/-- No spelling of THEN ends with a parenthesis. -/
lemma getLast?_ne_of_spelled {z : List Char} (h : List.Forall₂ Text.LowersTo z ['t', 'h', 'e', 'n'])
    (a : List Char) : (a ++ z).getLast? ≠ some '(' := by
  obtain ⟨c, r, hc, _, hr⟩ := List.forall₂_cons_right_iff.1 (List.rel_reverse h)
  rw [← List.head?_reverse, List.reverse_append, hr]
  rintro ⟨⟩
  revert hc
  decide

/-- How a text ends that asks for a deeper line. -/
theorem continuation?_eq_some_iff {s : List Char} {k : Nat} :
    continuation? s = some k ↔ ∃ a z, s = a ++ z ∧ Asks a z ∧ k = a.length := by
  unfold continuation?
  constructor
  · intro h
    split at h
    · next hlast =>
      obtain ⟨a, rfl⟩ := List.getLast?_eq_some_iff.1 hlast
      cases h
      exact ⟨a, ['('], rfl, .inl rfl, by simp⟩
    · obtain ⟨a, z, rfl, hz, hword, rfl⟩ := (trailingWord?_eq_some_iff (by simp [Text.isOdd])).1 h
      exact ⟨a, z, rfl, .inr ⟨hz, hword⟩, rfl⟩
  · rintro ⟨a, z, rfl, rfl | ⟨hz, hword⟩, rfl⟩
    · simp
    · rw [if_neg (getLast?_ne_of_spelled hz a)]
      exact (trailingWord?_eq_some_iff (by simp [Text.isOdd])).2 ⟨a, z, rfl, hz, hword, rfl⟩

/-- A continuation is opened within the text. -/
lemma continuation?_le {s : List Char} {k : Nat} (h : continuation? s = some k) :
    k ≤ s.length := by
  obtain ⟨a, z, rfl, _, rfl⟩ := continuation?_eq_some_iff.1 h
  simp

end SqlMargin
