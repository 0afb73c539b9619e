import SqlMargin.Lexical.Classifier
import SqlMargin.Proofs.Lexical.Pieces
import SqlMargin.Proofs.Text.Offsets

/-! Scanning line by line. A text may be cut after any line feed, and the margin of a line moves no
state that scanning can reach, so the state at the start of a line hangs on the contents of the
lines above it only. -/
namespace SqlMargin.Lexical

/-- A text may be scanned in two parts that are cut just after a line feed. -/
theorem scan_append_newline (e : Bool) (s : State) (a b : List Char) :
    scan e s (a ++ '\n' :: b) = scan e (scan e s (a ++ ['\n'])) b := by
  have hcut := cutsPair_newline e (scan e s (a ++ ['\n'])) (a := a ++ ['\n']) (by simp) b
  rw [← scan_append hcut, List.append_assoc, List.singleton_append]

/-- The state after some lines, each with its line feed. -/
def afterLines (e : Bool) (s : State) (ls : List (List Char)) : State :=
  ls.foldl (fun s l => scan e s (l ++ ['\n'])) s

/-- The state at the start of line `i` of a text that starts in code. -/
def lineState (e : Bool) (ls : List (List Char)) (i : Nat) : State :=
  afterLines e {} (ls.take i)

lemma scan_ended_append (e : Bool) (s : State) (ls : List (List Char)) (t : List Char) :
    scan e s (Text.ended ls ++ t) = scan e (afterLines e s ls) t := by
  induction ls generalizing s with
  | nil => rfl
  | cons l ls ih =>
    rw [Text.ended, List.flatMap_cons, List.append_assoc, List.append_assoc,
      List.singleton_append, scan_append_newline]
    exact ih _

/-- What a classifier keeps are the states at the line starts. -/
theorem getElem?_endStates (e : Bool) (s : State) (ls : List (List Char)) (i : Nat)
    (h : i ≤ ls.length) :
    (s :: Classifier.endStates e s ls)[i]? = some (afterLines e s (ls.take i)) := by
  induction ls generalizing s i with
  | nil =>
    have hi : i = 0 := by simpa using h
    subst hi
    rfl
  | cons l ls ih =>
    cases i with
    | zero => rfl
    | succ i =>
      have hi : i ≤ ls.length := by simpa using h
      simpa [Classifier.endStates, afterLines] using ih (scan e s (l ++ ['\n'])) i hi

/-- A quote kept in the state is one that opens literals. -/
def State.Natural (s : State) : Prop := ∀ q, s.quote = some q → ∃ c, isQuote c = true ∧ q = [c]

lemma natural_default : State.Natural {} := by
  intro q h
  cases h

lemma State.Natural.advance {s : State} (h : s.Natural) (e : Bool) (c : Char)
    (next : Option Char) : (s.advance e c next).1.Natural := by
  unfold State.advance
  cases s.context with
  | code =>
    by_cases hq : isQuote c
    · intro q hs
      simp only [hq, if_true, Option.some.injEq] at hs
      exact ⟨c, hq, hs.symm⟩
    · simp only [hq, Bool.false_eq_true, if_false]
      repeat' split
      all_goals exact h
  | string =>
    dsimp only
    repeat' split
    · exact h
    · intro q hs
      cases hs
    · exact h
  | lineComment =>
    dsimp only
    split
    all_goals exact h
  | blockComment =>
    dsimp only
    split
    all_goals exact h

lemma State.Natural.scanFrom {s : State} (h : s.Natural) (e taken : Bool) (t : List Char) :
    (Lexical.scanFrom e taken s t).Natural := by
  induction t generalizing taken s with
  | nil => cases taken <;> exact h
  | cons c t ih =>
    cases taken with
    | true => exact ih h false
    | false => exact ih (h.advance e c t.head?) _

theorem State.Natural.scan {s : State} (h : s.Natural) (e : Bool) (t : List Char) :
    (Lexical.scan e s t).Natural := h.scanFrom e false t

lemma State.Natural.afterLines {s : State} (h : s.Natural) (e : Bool) (ls : List (List Char)) :
    (Lexical.afterLines e s ls).Natural := by
  induction ls generalizing s with
  | nil => exact h
  | cons l ls ih => exact ih (h.scan e _)

theorem natural_lineState (e : Bool) (ls : List (List Char)) (i : Nat) :
    (lineState e ls i).Natural := natural_default.afterLines e _

/-- The characters by which scanning moves. -/
def special : List Char := ['\x27', '"', '\x60', '\\', '/', '*', '#', '-', '(', ')', '\n']

lemma isQuote_iff (c : Char) : isQuote c = true ↔ c = '\x27' ∨ c = '"' ∨ c = '\x60' := by
  simp [isQuote, or_assoc]

/-- Only a quote ends a literal by itself. -/
lemma State.Natural.quote_ne {s : State} (h : s.Natural) {c : Char} (hc : isQuote c = false) :
    s.quote ≠ some [c] := by
  intro hq
  obtain ⟨q, hquote, he⟩ := h [c] hq
  cases he
  rw [hquote] at hc
  cases hc

lemma advance_of_notMem_special {s : State} (h : s.Natural) (e : Bool) {c : Char}
    (hc : c ∉ special) (next : Option Char) : s.advance e c next = (s, false) := by
  have hquote : isQuote c = false := by
    rw [← Bool.not_eq_true, isQuote_iff]
    rintro (rfl | rfl | rfl) <;> exact hc (by decide)
  have hne := h.quote_ne hquote
  simp only [special, List.mem_cons, List.not_mem_nil, or_false, not_or] at hc
  unfold State.advance
  cases s.context <;> simp [hquote, hne, hc]

/-- Characters by which scanning does not move leave the state as it is. -/
theorem scan_plain_append {s : State} (h : s.Natural) (e : Bool) (w t : List Char)
    (hw : ∀ c ∈ w, c ∉ special) : scan e s (w ++ t) = scan e s t := by
  induction w with
  | nil => rfl
  | cons c w ih =>
    have hc := advance_of_notMem_special h e (hw c List.mem_cons_self) (w ++ t).head?
    have ih := ih fun x hx => hw x (List.mem_cons_of_mem c hx)
    simpa only [scan, List.cons_append, scanFrom, hc] using ih

/-- A margin leaves the state as it is. -/
theorem scan_margin {s : State} (h : s.Natural) (e : Bool) (m t : List Char)
    (hm : ∀ c ∈ m, isIndent c = true) : scan e s (m ++ t) = scan e s t := by
  have hspecial : special.all (fun c => !isIndent c) = true := by decide
  apply scan_plain_append h
  intro c hc hs
  have hc := hm c hc
  have hs := List.all_eq_true.1 hspecial c hs
  rw [hc] at hs
  cases hs

theorem scan_contentOf_append {s : State} (h : s.Natural) (e : Bool) (l t : List Char) :
    scan e s (l ++ t) = scan e s (contentOf l ++ t) := by
  have hm : ∀ c ∈ marginOf l, isIndent c = true := List.all_eq_true.1 List.all_takeWhile
  rw [← marginOf_append_contentOf l, List.append_assoc, scan_margin h e _ _ hm]
  rw [marginOf_append_contentOf]

lemma afterLines_contents {s : State} (h : s.Natural) (e : Bool) (ls : List (List Char)) :
    afterLines e s (ls.map contentOf) = afterLines e s ls := by
  induction ls generalizing s with
  | nil => rfl
  | cons l ls ih =>
    have hl := scan_contentOf_append h e l ['\n']
    simp only [afterLines, List.map_cons, List.foldl_cons, ← hl]
    exact ih (h.scan e _)

/-- The state at a line start does not see the margins above it. -/
theorem lineState_contents (e : Bool) (ls : List (List Char)) (i : Nat) :
    lineState e (ls.map contentOf) i = lineState e ls i := by
  unfold lineState
  rw [← List.map_take]
  exact afterLines_contents natural_default e _

end SqlMargin.Lexical
