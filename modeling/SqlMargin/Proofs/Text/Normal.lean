import SqlMargin.Proofs.Text.Lowering
import SqlMargin.Proofs.Text.Words

/-! Texts in normal form: without whitespace around them, and in lower case. No small letter has a
small letter of its own and none is whitespace, so a text in normal form stays as it is when it is
brought to it again. -/
namespace SqlMargin.Text

/-! Lower case of lower case. -/

/-- No small letter of a run is a capital of one of some other runs. Where the letters overlap with
capitals they stand between these. -/
def CaseRun.misses (r : CaseRun) (runs : List CaseRun) : Bool :=
  let low := (r.first + r.shift).toNat
  let high := (r.last + r.shift).toNat
  runs.all fun q => Nat.blt high q.first || Nat.blt q.last low ||
    (Nat.beq q.step 2 && (Nat.beq r.step 2 || Nat.beq r.first r.last) &&
      Nat.beq ((low + q.first) % 2) 1)

lemma caseRuns_miss : caseRuns.all (·.misses caseRuns) = true := by decide +kernel

/-- Nor is it the capital that becomes two characters. -/
lemma caseRuns_avoid_dotted :
    ∀ r ∈ caseRuns, 0 < r.first + r.shift ∧
      (r.last + r.shift < 0x130 ∨ 0x130 < r.first + r.shift) := by decide +kernel

lemma smallLetter?_of_smallLetter? {n m : Nat} (h : smallLetter? caseRuns n = some m) :
    smallLetter? caseRuns m = none := by
  rw [Option.eq_none_iff_forall_ne_some]
  intro k hk
  obtain ⟨r, hr, hfirst, hlast, hstep, rfl⟩ := exists_mem_of_smallLetter? h
  obtain ⟨q, hq, hqfirst, hqlast, hqstep, -⟩ := exists_mem_of_smallLetter? hk
  have hmiss := List.all_eq_true.1 (List.all_eq_true.1 caseRuns_miss r hr) q hq
  have hpos := (caseRuns_avoid_dotted r hr).1
  simp only [Bool.or_eq_true, Bool.and_eq_true, Nat.blt_eq, Nat.beq_eq] at hmiss
  rcases hmiss with (hbelow | habove) | ⟨⟨hqtwo, htwo⟩, hodd⟩
  · omega
  · omega
  · rw [hqtwo] at hqstep
    rcases htwo with htwo | hone
    · rw [htwo] at hstep
      omega
    · omega

/-- What a letter becomes stays as it is. -/
lemma lowersTo_of_mem_lowerChar {c v : Char} (hc : c ≠ 'Σ') (h : v ∈ lowerChar c) :
    LowersTo v v := by
  unfold lowerChar at h
  split at h
  · rw [List.mem_cons, List.mem_singleton] at h
    rcases h with rfl | rfl
    all_goals decide +kernel
  · next hdot =>
    rw [List.mem_singleton] at h
    cases hsmall : smallLetter? caseRuns c.toNat with
    | none =>
      rw [hsmall] at h
      subst h
      exact ⟨hc, by rw [lowerChar, if_neg hdot, hsmall]; rfl⟩
    | some m =>
      rw [hsmall] at h
      have hnone := smallLetter?_of_smallLetter? hsmall
      obtain ⟨r, hr, hfirst, hlast, -, hm⟩ := exists_mem_of_smallLetter? hsmall
      have havoid := caseRuns_avoid_dotted r hr
      have hv : v.toNat = m ∨ v = '\x00' := by
        subst h
        exact (toNat_ofNat_eq m).imp_right Char.toNat_inj.1
      rcases hv with hv | rfl
      · have hsigma : v ≠ 'Σ' := by
          rintro rfl
          rw [← hv] at hnone
          exact absurd hnone (by decide +kernel)
        have hdotted : v ≠ '\u0130' := by
          rintro rfl
          change 0x130 = m at hv
          omega
        refine ⟨hsigma, ?_⟩
        rw [lowerChar, if_neg hdotted, hv, hnone]
        rfl
      · decide +kernel

lemma lowersTo_of_mem_lowerFrom {k : Bool} {s : List Char} {v : Char} (h : v ∈ lowerFrom k s) :
    LowersTo v v := by
  induction s generalizing k with
  | nil => cases h
  | cons c s ih =>
    rw [lowerFrom, List.mem_append] at h
    rcases h with h | h
    · split at h
      · rw [List.mem_singleton] at h
        subst h
        split <;> decide +kernel
      · next hc => exact lowersTo_of_mem_lowerChar hc h
    · exact ih h

/-- A text in lower case is its own lower case. -/
theorem lower_lower (s : List Char) : lower (lower s) = lower s := by
  have hself : List.Forall₂ LowersTo (lower s) (lower s) :=
    List.forall₂_same.2 fun v hv => lowersTo_of_mem_lowerFrom hv
  obtain ⟨k, hk⟩ := exists_lowerFrom_spelled false hself []
  rw [lowerFrom, List.append_nil] at hk
  exact hk

/-! Texts without whitespace around them. -/

/-- A text neither begins nor ends with whitespace. -/
def Bare (s : List Char) : Prop :=
  (∀ c ∈ s.head?, isBlank c = false) ∧ ∀ c ∈ s.getLast?, isBlank c = false

lemma dropWhile_of_head? {p : Char → Bool} {s : List Char} (h : ∀ c ∈ s.head?, p c = false) :
    s.dropWhile p = s := by
  cases s with
  | nil => rfl
  | cons c s => exact List.dropWhile_cons_of_neg (by simp [h c rfl])

lemma trim_of_bare {s : List Char} (h : Bare s) : trim s = s := by
  rw [trim, trimLeft, dropWhile_of_head? h.1, trimRight, dropWhile_of_head?, List.reverse_reverse]
  rw [List.head?_reverse]
  exact h.2

lemma head?_dropWhile_isBlank (s : List Char) :
    ∀ c ∈ (s.dropWhile isBlank).head?, isBlank c = false := by
  intro c hc
  have h := List.head?_dropWhile_not isBlank s
  rw [Option.mem_def.1 hc] at h
  exact h

lemma bare_trim (s : List Char) : Bare (trim s) := by
  constructor
  · intro c hc
    obtain ⟨t, ht⟩ : trim s <+: trimLeft s := by
      rw [trim, trimRight, ← List.reverse_reverse (trimLeft s), List.reverse_prefix,
        List.reverse_reverse]
      exact List.dropWhile_suffix isBlank
    apply head?_dropWhile_isBlank s c
    rw [trimLeft] at ht
    rw [← ht, List.head?_append, Option.mem_def.1 hc]
    rfl
  · intro c hc
    rw [trim, trimRight, List.getLast?_reverse] at hc
    exact head?_dropWhile_isBlank _ c hc

lemma bare_lower {s : List Char} (h : Bare s) : Bare (lower s) := by
  constructor
  · cases s with
    | nil => simp [lower, lowerFrom]
    | cons c s =>
      obtain ⟨next, l, hl, -, hsolid⟩ := lowerFrom_cons false c s
      obtain ⟨hne, hall⟩ := hsolid (h.1 c rfl)
      intro d hd
      rw [lower, hl, List.head?_append_of_ne_nil _ hne] at hd
      exact hall d (List.mem_of_head? hd)
  · rcases List.eq_nil_or_concat s with rfl | ⟨a, c, rfl⟩
    · simp [lower, lowerFrom]
    · obtain ⟨a', k, ha⟩ := exists_lowerFrom_append false a [c]
      obtain ⟨next, l, hl, -, hsolid⟩ := lowerFrom_cons k c []
      obtain ⟨hne, hall⟩ := hsolid (h.2 c (by simp))
      intro d hd
      rw [lower, List.concat_eq_append, ha, hl, lowerFrom, List.append_nil,
        List.getLast?_append_of_ne_nil _ hne] at hd
      exact hall d (List.mem_of_getLast? hd)

/-- Normal form is kept. -/
theorem lower_trim_idem (s : List Char) : lower (trim (lower (trim s))) = lower (trim s) := by
  rw [trim_of_bare (bare_lower (bare_trim s)), lower_lower]

end SqlMargin.Text
