import Mathlib.Tactic.Lemma
import SqlMargin.Indent.Line

/-! Margins written and measured again. Under a style no tab fails, and a margin that was written to
take so many columns takes so many, in spaces or in tabs and spaces. -/
namespace SqlMargin

/-- The column reached after a margin that starts in column `n`, with tab stops every `w`
columns. -/
def columnsFrom (w : Nat) : Nat → List Char → Nat
  | n, [] => n
  | n, c :: rest =>
    if c = ' ' then columnsFrom w (n + 1) rest
    else if c = '\t' then columnsFrom w ((n / w + 1) * w) rest
    else n

/-- The columns that a line's margin takes. -/
def columns (w : Nat) (l : List Char) : Nat := columnsFrom w 0 l

lemma nextStop_natCast (w n : Nat) (hw : 0 < w) :
    nextStop w n = .ok (((n / w + 1) * w : Nat) : Int) := by
  have hr := Nat.mod_lt n hw
  have hn := Nat.div_add_mod' n w
  have hs := Nat.add_one_mul (n / w) w
  unfold nextStop
  rw [if_neg (by omega), Int.fmod_eq_emod_of_nonneg _ (Int.natCast_nonneg w)]
  congr 1
  omega

lemma columnsFrom_eq (w n : Nat) (hw : 0 < w) (l : List Char) :
    (Ruler.ofWidth w).columnsFrom (n : Int) l = .ok (columnsFrom w n l : Int) := by
  induction l generalizing n with
  | nil => rfl
  | cons c l ih =>
    rw [Ruler.columnsFrom, columnsFrom]
    split
    · exact ih (n + 1)
    · split
      · change nextStop w n >>= _ = _
        rw [nextStop_natCast w n hw]
        exact ih _
      · rfl

/-- Tab stops that are some way apart measure every line. -/
theorem columnsOf_eq (s : Style) (l : List Char) :
    s.reading.ruler.columnsOf l = .ok (columns s.tabWidth l : Int) :=
  columnsFrom_eq s.tabWidth 0 s.tabWidth_pos l

lemma columnsFrom_tabs (w q n : Nat) (hw : 0 < w) (l : List Char) :
    columnsFrom w (n * w) (List.replicate q '\t' ++ l) = columnsFrom w ((n + q) * w) l := by
  induction q generalizing n with
  | zero => rfl
  | succ q ih =>
    have hstop := Nat.mul_div_cancel n hw
    have ih := ih (n + 1)
    rw [List.replicate_succ, List.cons_append, columnsFrom, if_neg (by decide), if_pos rfl, hstop,
      ih]
    congr 2
    omega

lemma columnsFrom_spaces (w r n : Nat) (l : List Char) :
    columnsFrom w n (List.replicate r ' ' ++ l) = columnsFrom w (n + r) l := by
  induction r generalizing n with
  | zero => rfl
  | succ r ih =>
    rw [List.replicate_succ, List.cons_append, columnsFrom, if_pos rfl, ih]
    congr 1
    omega

lemma head?_contentOf (l : List Char) : (contentOf l).head?.any isIndent = false := by
  have h := List.head?_dropWhile_not isIndent l
  unfold contentOf
  cases hd : (l.dropWhile isIndent).head? with
  | none => rfl
  | some c =>
    rw [hd] at h
    exact h

lemma columnsFrom_contentOf (w n : Nat) (l : List Char) : columnsFrom w n (contentOf l) = n := by
  have h := head?_contentOf l
  cases hc : contentOf l with
  | nil => rfl
  | cons c rest =>
    rw [hc] at h
    have hc : ¬ c = ' ' ∧ ¬ c = '\t' := by simpa [isIndent] using h
    rw [columnsFrom, if_neg hc.1, if_neg hc.2]

/-- The margin of `n` columns, however wide it is: tabs as far as whole stops go, or spaces. -/
def Style.render (s : Style) (n : Nat) : Margin :=
  if s.withTabs then .ofCounts (n / s.tabWidth) (n % s.tabWidth) else .ofCounts 0 n

/-- A margin rendered for some columns is measured at them. -/
theorem columns_render (s : Style) (n : Nat) (l : List Char) :
    columns s.tabWidth ((s.render n).chars ++ contentOf l) = n := by
  have hcounts : ∀ q r, columns s.tabWidth ((Margin.ofCounts q r).chars ++ contentOf l) =
      q * s.tabWidth + r := by
    intro q r
    have htabs := columnsFrom_tabs s.tabWidth q 0 s.tabWidth_pos
    rw [Nat.zero_mul, Nat.zero_add] at htabs
    rw [columns, Margin.ofCounts, List.append_assoc, htabs, columnsFrom_spaces,
      columnsFrom_contentOf]
  unfold Style.render
  split
  · rw [hcounts, Nat.div_add_mod']
  · rw [hcounts, Nat.zero_mul, Nat.zero_add]

/-- A margin has no more characters than columns. -/
lemma Style.length_render_le (s : Style) (n : Nat) : (s.render n).chars.length ≤ n := by
  have hn := Nat.div_add_mod n s.tabWidth
  have hq := Nat.le_mul_of_pos_left (n / s.tabWidth) s.tabWidth_pos
  unfold render
  split
  · simp only [Margin.ofCounts, List.length_append, List.length_replicate]
    omega
  · simp [Margin.ofCounts]

section Memory

variable [Memory]

lemma Memory.check_cases (n : Nat) :
    (∃ f, f.TooLarge ∧ room < n ∧ check n = .error f) ∨ n ≤ room ∧ check n = .ok () := by
  by_cases hn : n ≤ room
  · exact .inr ⟨hn, if_pos hn⟩
  · exact .inl ⟨.noMemory, .inr rfl, by omega, if_neg hn⟩

lemma Memory.tooLarge_of_check {n : Nat} {f : Fault} (h : check n = .error f) : f.TooLarge := by
  rcases check_cases n with ⟨g, hg, _, hc⟩ | ⟨_, hc⟩
  all_goals
    rw [hc] at h
    cases h
  exact hg

lemma Margin.count_of_room_lt {n : Nat} (h : Memory.room < n) :
    Margin.count n = .error (if n < countBound then .noMemory else .countTooLarge) := by
  unfold count
  split
  · next hn =>
    rw [if_pos (by omega), Int.toNat_natCast, Memory.check, if_neg (Nat.not_le.2 h)]
    rfl
  · next hn => rw [if_neg (by omega)]

lemma Margin.count_cases (n : Nat) :
    (∃ f, f.TooLarge ∧ Memory.room < n ∧ Margin.count n = .error f) ∨
      n ≤ Memory.room ∧ Margin.count n = .ok n := by
  rcases Nat.lt_or_ge Memory.room n with hn | hn
  · refine .inl ⟨_, ?_, hn, count_of_room_lt hn⟩
    split
    · exact .inr rfl
    · exact .inl rfl
  · exact .inr ⟨hn, count_natCast hn⟩

/-- A margin is written as it is rendered, or it is too wide to be written. -/
lemma Style.margin_cases (s : Style) (n : Nat) :
    (∃ f, f.TooLarge ∧ s.margin n = .error f) ∨ s.margin n = .ok (s.render n) := by
  unfold Style.margin Style.render
  split
  · rcases Margin.count_cases (n / s.tabWidth) with ⟨f, hf, _, hq⟩ | ⟨_, hq⟩
    · rw [hq]
      exact .inl ⟨f, hf, rfl⟩
    · rcases Margin.count_cases (n % s.tabWidth) with ⟨f, hf, _, hr⟩ | ⟨_, hr⟩
      · rw [hq, hr]
        exact .inl ⟨f, hf, rfl⟩
      · rw [hq, hr]
        exact .inr rfl
  · rcases Margin.count_cases n with ⟨f, hf, _, hc⟩ | ⟨_, hc⟩
    · rw [hc]
      exact .inl ⟨f, hf, rfl⟩
    · rw [hc]
      exact .inr rfl

/-- A margin can be written if there is room for its characters. -/
lemma Style.margin_of_le {s : Style} {n : Nat} (h : (s.render n).chars.length ≤ Memory.room) :
    s.margin n = .ok (s.render n) := by
  unfold Style.render at h
  unfold Style.margin Style.render
  split at h
  · next hw =>
    simp only [Margin.ofCounts, List.length_append, List.length_replicate] at h
    rw [if_pos hw, if_pos hw, Margin.count_natCast (Nat.le_trans (Nat.le_add_right ..) h),
      Margin.count_natCast (Nat.le_trans (Nat.le_add_left ..) h)]
    rfl
  · next hw =>
    rw [if_neg hw, if_neg hw, Margin.count_natCast (by simpa [Margin.ofCounts] using h)]
    rfl

lemma Style.margin_eq_error {s : Style} {n : Nat} {f : Fault} (h : s.margin n = .error f) :
    f.TooLarge := by
  rcases s.margin_cases n with ⟨g, hg, he⟩ | he
  · rw [he] at h
    cases h
    exact hg
  · rw [he] at h
    cases h

lemma Style.eq_render {s : Style} {n : Nat} {m : Margin} (h : s.margin n = .ok m) :
    m = s.render n := by
  rcases s.margin_cases n with ⟨f, _, he⟩ | he
  · rw [he] at h
    cases h
  · rw [he] at h
    exact (Except.ok.inj h).symm

/-- A line placed at some columns is measured at them. -/
theorem columns_margin {s : Style} {n : Nat} {m : Margin} (h : s.margin n = .ok m)
    (l : List Char) : columns s.tabWidth (m.chars ++ contentOf l) = n := by
  rw [Style.eq_render h]
  exact columns_render s n l

end Memory
end SqlMargin
