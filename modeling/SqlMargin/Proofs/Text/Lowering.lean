import Mathlib.Data.List.Forall2
import Mathlib.Data.List.Infix
import Mathlib.Tactic.Lemma
import SqlMargin.Text.Lowercase

/-! Lower case and the parts of a text. Most letters have one small letter wherever they stand, so a
word of such letters is found in the lower case of a text exactly where it is spelled, in whatever
case. -/
namespace SqlMargin.Text

/-- `v` is the small letter of `c`, or `c` itself if it has none, wherever `c` stands. -/
def LowersTo (c v : Char) : Prop := c ≠ 'Σ' ∧ lowerChar c = [v]

instance (c v : Char) : Decidable (LowersTo c v) :=
  inferInstanceAs (Decidable (c ≠ 'Σ' ∧ lowerChar c = [v]))

/-- What a text ends with is lowered by itself, but for what came before it. -/
lemma exists_lowerFrom_append (k : Bool) (a b : List Char) :
    ∃ a' k', lowerFrom k (a ++ b) = a' ++ lowerFrom k' b := by
  induction a generalizing k with
  | nil => exact ⟨[], k, rfl⟩
  | cons c a ih =>
    obtain ⟨a', k', h⟩ := ih (if isCaseIgnorable c then k else isCased c)
    rw [List.cons_append, lowerFrom, h, ← List.append_assoc]
    exact ⟨_, k', rfl⟩

/-- A spelling of a word, with its letters in any case, is lowered to the word. -/
lemma exists_lowerFrom_spelled (k : Bool) {p w : List Char} (h : List.Forall₂ LowersTo p w)
    (b : List Char) : ∃ k', lowerFrom k (p ++ b) = w ++ lowerFrom k' b := by
  induction h generalizing k with
  | nil => exact ⟨k, rfl⟩
  | @cons c v p w hc _ ih =>
    obtain ⟨k', hk⟩ := ih (if isCaseIgnorable c then k else isCased c)
    rw [List.cons_append, lowerFrom, if_neg hc.1, hc.2, hk]
    exact ⟨k', rfl⟩

lemma infix_lower {p u : List Char} (h : p <:+: u) (hp : ∀ c ∈ p, LowersTo c c) :
    p <:+: lower u := by
  obtain ⟨a, b, rfl⟩ := h
  obtain ⟨a', k, ha⟩ := exists_lowerFrom_append false a (p ++ b)
  have hpp : List.Forall₂ LowersTo p p := List.forall₂_same.2 hp
  obtain ⟨k', hk⟩ := exists_lowerFrom_spelled k hpp b
  refine ⟨a', lowerFrom k' b, ?_⟩
  rw [lower, List.append_assoc a p b, ha, hk, List.append_assoc]

/-- Lower case is no shorter. -/
lemma length_le_lowerFrom (k : Bool) (r : List Char) : r.length ≤ (lowerFrom k r).length := by
  induction r generalizing k with
  | nil => exact Nat.le_refl _
  | cons c r ih =>
    have hc : 1 ≤ (lowerChar c).length := by
      unfold lowerChar
      split <;> simp
    rw [lowerFrom, List.length_append, List.length_cons]
    have ih := ih (if isCaseIgnorable c then k else isCased c)
    split
    · simp only [List.length_singleton]
      omega
    · omega

/-- Characters that come from a letter whose lower case hangs on its place, or from one that becomes
two. -/
def isOdd (v : Char) : Bool := v == 'i' || v == '\u0307' || v == 'σ' || v == 'ς'

/-- Anything else comes from a letter with one small letter. -/
lemma lowersTo_of_suffix {k : Bool} {c y : Char} {x r : List Char} (hy : isOdd y = false)
    (h : y :: x <:+ if c = 'Σ' then [if k && !casedAhead r then 'ς' else 'σ'] else lowerChar c) :
    LowersTo c y ∧ x = [] := by
  have hmem := h.subset List.mem_cons_self
  have hlen := h.length_le
  by_cases hc : c = 'Σ'
  · rw [if_pos hc, List.mem_singleton] at hmem
    subst hmem
    split at hy <;> cases hy
  · rw [if_neg hc] at hmem hlen
    unfold lowerChar at hmem hlen
    by_cases hi : c = '\u0130'
    · rw [if_pos hi, List.mem_cons, List.mem_singleton] at hmem
      rcases hmem with rfl | rfl <;> cases hy
    · rw [if_neg hi] at hmem hlen
      rw [List.mem_singleton] at hmem
      refine ⟨⟨hc, ?_⟩, List.length_eq_zero_iff.1 (by simpa using hlen)⟩
      rw [lowerChar, if_neg hi, hmem]

/-- A word that ends a lowered text ends the lowered rest, or takes all of it and the letter before
it. -/
lemma suffix_lowerFrom_cons {k : Bool} {c : Char} {r w : List Char}
    (hw : ∀ v ∈ w, isOdd v = false) (h : w <:+ lowerFrom k (c :: r)) :
    w <:+ lowerFrom (if isCaseIgnorable c then k else isCased c) r ∨
      ∃ v, LowersTo c v ∧
        w = v :: lowerFrom (if isCaseIgnorable c then k else isCased c) r := by
  rw [lowerFrom] at h
  generalize lowerFrom (if isCaseIgnorable c then k else isCased c) r = rest at h ⊢
  rcases List.suffix_or_suffix_of_suffix h (List.suffix_append _ rest) with h' | ⟨x, rfl⟩
  · exact .inl h'
  · cases x with
    | nil => exact .inl (List.suffix_refl rest)
    | cons y x =>
      obtain ⟨z, hz⟩ := h
      rw [← List.append_assoc, List.append_cancel_right_eq] at hz
      obtain ⟨hv, rfl⟩ := lowersTo_of_suffix (hw y List.mem_cons_self) ⟨z, hz⟩
      exact .inr ⟨y, hv, rfl⟩

lemma suffix_lowerFrom_iff (k : Bool) {r w : List Char} (hw : ∀ v ∈ w, isOdd v = false) :
    w <:+ lowerFrom k r ↔ ∃ a b, r = a ++ b ∧ List.Forall₂ LowersTo b w := by
  constructor
  · intro h
    induction r generalizing k w with
    | nil =>
      rw [lowerFrom, List.suffix_nil] at h
      subst h
      exact ⟨[], [], rfl, .nil⟩
    | cons c r ih =>
      rcases suffix_lowerFrom_cons hw h with h' | ⟨v, hv, rfl⟩
      · obtain ⟨a, b, rfl, hb⟩ := ih _ hw h'
        exact ⟨c :: a, b, rfl, hb⟩
      · -- All of the rest belongs to the word, so it is spelled from its first letter on.
        obtain ⟨a, b, rfl, hb⟩ := ih _ (fun x hx => hw x (List.mem_cons_of_mem v hx))
          (List.suffix_refl _)
        have hle := length_le_lowerFrom (if isCaseIgnorable c then k else isCased c) (a ++ b)
        rw [← hb.length_eq, List.length_append] at hle
        have ha : a = [] := List.length_eq_zero_iff.1 (by omega)
        subst ha
        exact ⟨[], c :: b, rfl, .cons hv hb⟩
  · rintro ⟨a, b, rfl, hb⟩
    obtain ⟨a', k', ha⟩ := exists_lowerFrom_append k a b
    obtain ⟨k'', hk⟩ := exists_lowerFrom_spelled k' hb []
    rw [List.append_nil, lowerFrom, List.append_nil] at hk
    rw [ha, hk]
    exact List.suffix_append a' w

/-- A word is at the end of a lowered text exactly when a spelling of it is at the end of the
text. -/
theorem suffix_lower_iff {r w : List Char} (hw : ∀ v ∈ w, isOdd v = false) :
    w <:+ lower r ↔ ∃ a b, r = a ++ b ∧ List.Forall₂ LowersTo b w := suffix_lowerFrom_iff false hw

end SqlMargin.Text
