import SqlMargin.Proofs.Lexical.Hidden

/-! How deeply parentheses nest. A parenthesis counts where the text before it, scanned on its own,
ends in code. That text may end between two characters that scanning takes together, which is not
where the scan of a longer text stops; but the second of them is never a parenthesis in code. -/
namespace SqlMargin.Lexical

/-- How many parentheses a character opens in a state; one that closes opens `-1`. -/
def State.nesting (s : State) (c : Char) : Int :=
  (if s.context = .code ∧ c = '(' then 1 else 0) - (if s.context = .code ∧ c = ')' then 1 else 0)

lemma State.nesting_of_ne {s : State} {c : Char} (hopen : c ≠ '(') (hclose : c ≠ ')') :
    s.nesting c = 0 := by
  simp [nesting, hopen, hclose]

lemma State.nesting_of_context_ne {s : State} (h : s.context ≠ .code) (c : Char) :
    s.nesting c = 0 := by
  simp [nesting, h]

/-- Parentheses count in code only. -/
lemma depth_advance (e : Bool) (s : State) (c : Char) (next : Option Char) :
    (s.advance e c next).1.depth = s.depth + s.nesting c := by
  unfold State.advance State.nesting
  cases s.context with
  | code =>
    by_cases hopen : c = '('
    · subst hopen
      simp [isQuote]
    by_cases hclose : c = ')'
    · subst hclose
      simp [isQuote, Int.sub_eq_add_neg]
    simp only [hopen, hclose, and_false, if_false, Int.add_zero, Int.sub_zero]
    repeat' split
    all_goals rfl
  | string =>
    simp only [reduceCtorEq, false_and, if_false, Int.add_zero, Int.sub_zero]
    repeat' split
    all_goals rfl
  | lineComment =>
    simp only [reduceCtorEq, false_and, if_false, Int.add_zero, Int.sub_zero]
    split
    all_goals rfl
  | blockComment =>
    simp only [reduceCtorEq, false_and, if_false, Int.add_zero, Int.sub_zero]
    split
    all_goals rfl

/-- Parentheses are opened and closed one by one. -/
lemma depth_scanFrom (e taken : Bool) (s : State) (t : List Char) :
    s.depth - t.count ')' ≤ (scanFrom e taken s t).depth ∧
      (scanFrom e taken s t).depth ≤ s.depth + t.count '(' := by
  induction t generalizing taken s with
  | nil => simp [scanFrom]
  | cons c t ih =>
    have hcount : ∀ p : Char, ((c :: t).count p : Int) = t.count p + if c = p then 1 else 0 := by
      intro p
      by_cases hc : c = p <;> simp [hc]
    rw [hcount, hcount]
    cases taken with
    | true =>
      have hrest := ih false s
      change _ ≤ (scanFrom e false s t).depth ∧ (scanFrom e false s t).depth ≤ _
      split_ifs <;> omega
    | false =>
      have hfirst := depth_advance e s c t.head?
      have hrest := ih (s.advance e c t.head?).2 (s.advance e c t.head?).1
      change _ ≤ (scanFrom e (s.advance e c t.head?).2 (s.advance e c t.head?).1 t).depth ∧
        (scanFrom e (s.advance e c t.head?).2 (s.advance e c t.head?).1 t).depth ≤ _
      by_cases hcode : s.context = .code
      · simp only [State.nesting, hcode, true_and] at hfirst
        split_ifs at hfirst ⊢ <;> omega
      · rw [State.nesting_of_context_ne hcode] at hfirst
        split_ifs <;> omega

/-- A character that takes along the next one, whatever that is, stands in a literal. -/
lemma context_of_advance_none {e : Bool} {s : State} {c : Char}
    (h : (s.advance e c none).2 = true) : (s.advance e c none).1.context ≠ .code := by
  unfold State.advance at h ⊢
  cases hs : s.context with
  | code =>
    simp only [hs] at h
    repeat' split at h
    all_goals simp_all
  | string =>
    simp only [hs] at h ⊢
    split_ifs at h ⊢
    · simp [hs]
  | lineComment =>
    simp only [hs] at h
    split_ifs at h
  | blockComment => simp [hs] at h

/-- One more character at the end of a text. It may be taken together with the one before it, which
the scan of the text alone does not know; parentheses are taken so in literals only. -/
lemma depth_scanFrom_concat {e taken : Bool} {s : State} {a : List Char} {c : Char}
    (h : taken = true → a = [] → s.nesting c = 0) :
    (scanFrom e taken s (a ++ [c])).depth =
      (scanFrom e taken s a).depth + (scanFrom e taken s a).nesting c := by
  have hone : ∀ (taken : Bool) (s : State), (taken = true → s.nesting c = 0) →
      (scanFrom e taken s [c]).depth = s.depth + s.nesting c := by
    intro taken s h
    cases taken with
    | true => rw [h rfl, scanFrom, scanFrom, Int.add_zero]
    | false => exact depth_advance e s c none
  induction a generalizing taken s with
  | nil => cases taken <;> exact hone _ s fun ht => h ht rfl
  | cons d a ih =>
    cases taken with
    | true => exact ih fun ht => absurd ht Bool.false_ne_true
    | false =>
      cases a with
      | cons x a => exact ih fun _ ha => absurd ha (List.cons_ne_nil x a)
      | nil =>
        change (scanFrom e (s.advance e d (some c)).2 (s.advance e d (some c)).1 [c]).depth =
          (s.advance e d none).1.depth + (s.advance e d none).1.nesting c
        by_cases hpar : c = '(' ∨ c = ')'
        · have hsome : s.advance e d (some c) = s.advance e d none := by
            apply advance_some e s d
            all_goals rcases hpar with rfl | rfl <;> simp
          rw [hsome]
          exact hone _ _ fun ht => State.nesting_of_context_ne (context_of_advance_none ht) c
        · rw [not_or] at hpar
          rw [hone _ _ fun _ => State.nesting_of_ne hpar.1 hpar.2, depth_advance, depth_advance,
            State.nesting_of_ne hpar.1 hpar.2, State.nesting_of_ne hpar.1 hpar.2]

/-- One position further on. -/
lemma depth_scan_take_succ (e : Bool) (s : State) (t : List Char) (p : Nat) :
    (scan e s (t.take (p + 1))).depth =
      (scan e s (t.take p)).depth + (t[p]?).elim 0 (scan e s (t.take p)).nesting := by
  rw [List.take_add_one]
  cases t[p]? with
  | none => simp
  | some c => exact depth_scanFrom_concat fun ht => absurd ht Bool.false_ne_true

/-- How often a character stands in code among some positions of a text. -/
def countInCode (e : Bool) (t : List Char) (c : Char) (start stop : Nat) : Nat :=
  (List.range' start (stop - start)).countP fun p =>
    t[p]? = some c ∧ (scan e {} (t.take p)).context = .code

lemma countInCode_succ (e : Bool) (t : List Char) (c : Char) {start stop : Nat}
    (h : start ≤ stop) :
    countInCode e t c start (stop + 1) = countInCode e t c start stop +
      if t[stop]? = some c ∧ (scan e {} (t.take stop)).context = .code then 1 else 0 := by
  unfold countInCode
  rw [Nat.succ_sub h, List.range'_concat, Nat.mul_comm 1, Nat.mul_one, Nat.add_sub_cancel' h,
    List.countP_append, List.countP_singleton]
  simp only [decide_eq_true_eq]

/-- What the depth gains between two positions is what parentheses in code open and close there. -/
theorem depth_scan_take (e : Bool) (t : List Char) {start stop : Nat} (h : start ≤ stop) :
    (scan e {} (t.take stop)).depth = (scan e {} (t.take start)).depth +
      countInCode e t '(' start stop - countInCode e t ')' start stop := by
  induction stop, h using Nat.le_induction with
  | base => simp [countInCode]
  | succ stop h ih =>
    rw [depth_scan_take_succ, ih, countInCode_succ e t '(' h, countInCode_succ e t ')' h]
    cases hc : t[stop]? with
    | none => simp
    | some c =>
      simp only [Option.elim_some, State.nesting, Option.some_inj, and_comm]
      split_ifs <;> omega

end SqlMargin.Lexical
