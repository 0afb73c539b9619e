import Mathlib.Tactic.Lemma
import Mathlib.Tactic.SplitIfs
import SqlMargin.Lexical.Scan

/-! Scanning in pieces. Now and then two characters are taken together; a text may be cut anywhere
but between two such characters, and each piece is scanned from where the one before it ended. How
many parentheses were open at the start is only carried along. -/
namespace SqlMargin.Lexical

namespace State

/-- Whether two characters are taken together, the first of which leads to state `t` when nothing
follows it. -/
def joins (e : Bool) (t : State) (last first : Char) : Bool :=
  match t.context with
  | .code => last = '/' && first = '*' || last = '-' && first = '-'
  | .string => last = '\\' && e && t.quote != some ['\x60']
  | .lineComment => false
  | .blockComment => last = '*' && first = '/'

/-- The state with more parentheses open. -/
def deepen (s : State) (n : Int) : State := { s with depth := s.depth + n }

/-- A character that is not taken together with the next one does what it does at the end. -/
lemma advance_of_not_joins {e : Bool} {s : State} {c x : Char}
    (h : (s.advance e c none).1.joins e c x = false) :
    s.advance e c (some x) = ((s.advance e c none).1, false) := by
  unfold advance at h ⊢
  cases hs : s.context with
  | code =>
    simp only [hs] at h ⊢
    by_cases hslash : c = '/'
    · subst hslash
      have hx : x ≠ '*' := by simpa [isQuote, joins, hs] using h
      simp [isQuote, hx]
    by_cases hdash : c = '-'
    · subst hdash
      have hx : x ≠ '-' := by simpa [isQuote, joins, hs] using h
      simp [isQuote, hx]
    simp only [hslash, hdash, decide_false, Bool.false_and, Bool.or_false, Bool.false_eq_true,
      if_false]
    split_ifs <;> rfl
  | string =>
    simp only [hs] at h ⊢
    split_ifs at h ⊢ with hescape
    · simp only [joins, hs] at h
      rw [hescape] at h
      cases h
    · rfl
    · rfl
  | lineComment =>
    simp only
    split_ifs <;> rfl
  | blockComment =>
    have hx : c = '*' → x ≠ '/' := by simpa [joins, hs] using h
    simpa using hx

lemma advance_deepen (e : Bool) (s : State) (n : Int) (c : Char) (next : Option Char) :
    (s.deepen n).advance e c next =
      ((s.advance e c next).1.deepen n, (s.advance e c next).2) := by
  unfold advance deepen
  cases hs : s.context with
  | code =>
    simp only
    split_ifs
    all_goals simp [hs, Int.add_right_comm, Int.sub_eq_add_neg]
  | string =>
    simp only
    split_ifs <;> simp [hs]
  | lineComment =>
    simp only
    split_ifs <;> simp [hs]
  | blockComment =>
    simp only
    split_ifs <;> simp [hs]

end State

/-- Whether a cut between two texts goes between characters that are taken together. `t` is the
state after the first text. -/
def cutsPair (e : Bool) (t : State) (a b : List Char) : Bool :=
  a.getLast?.any fun last => b.head?.any (t.joins e last)

lemma scanFrom_append {e taken : Bool} {s : State} {a b : List Char}
    (htaken : taken = true → a ≠ []) (h : cutsPair e (scanFrom e taken s a) a b = false) :
    scanFrom e taken s (a ++ b) = scan e (scanFrom e taken s a) b := by
  induction a generalizing taken s with
  | nil =>
    cases taken with
    | true => exact absurd rfl (htaken rfl)
    | false => rfl
  | cons c a ih =>
    cases taken with
    | true =>
      refine ih nofun ?_
      cases a with
      | nil => rfl
      | cons d a => exact h
    | false =>
      cases a with
      | nil =>
        -- Only the last character before the cut might be taken together with one after it.
        cases b with
        | nil => rfl
        | cons x b =>
          have hjoins : (s.advance e c none).1.joins e c x = false := by
            simpa [cutsPair, scanFrom] using h
          simp only [List.cons_append, List.nil_append, scanFrom, List.head?_cons, List.head?_nil,
            State.advance_of_not_joins hjoins]
          rfl
      | cons d a =>
        simp only [List.cons_append, scanFrom, List.head?_cons] at h ⊢
        exact ih (fun _ => List.cons_ne_nil d a) h

/-- A text may be scanned in two pieces, unless it is cut between characters that are taken
together. -/
theorem scan_append {e : Bool} {s : State} {a b : List Char}
    (h : cutsPair e (scan e s a) a b = false) :
    scan e s (a ++ b) = scan e (scan e s a) b := scanFrom_append nofun h

/-- Nothing is taken together with a line feed before it. -/
lemma cutsPair_newline (e : Bool) (t : State) {a : List Char} (ha : a.getLast? = some '\n')
    (b : List Char) : cutsPair e t a b = false := by
  have hjoins : ∀ x, t.joins e '\n' x = false := by
    intro x
    unfold State.joins
    cases t.context <;> simp
  rw [cutsPair, ha, Option.any_some]
  cases b.head? with
  | none => rfl
  | some x => exact hjoins x

lemma scanFrom_deepen (e taken : Bool) (s : State) (n : Int) (t : List Char) :
    scanFrom e taken (s.deepen n) t = (scanFrom e taken s t).deepen n := by
  induction t generalizing taken s with
  | nil => cases taken <;> rfl
  | cons c t ih =>
    cases taken with
    | true => exact ih false s
    | false =>
      rw [scanFrom, scanFrom, State.advance_deepen]
      exact ih _ _

/-- Whatever the state at the start, a text may be scanned in two pieces unless they are cut between
two characters that are taken together, so always after a line feed; and parentheses that are open
at the start are open at the end as well. -/
theorem scan_in_pieces (e : Bool) (s : State) (a b : List Char) :
    (cutsPair e (scan e s a) a b = false → scan e s (a ++ b) = scan e (scan e s a) b) ∧
      (a.getLast? = some '\n' → scan e s (a ++ b) = scan e (scan e s a) b) ∧
      ∀ n : Int, scan e (s.deepen n) a = (scan e s a).deepen n :=
  ⟨scan_append, fun ha => scan_append (cutsPair_newline e _ ha b), fun n =>
    scanFrom_deepen e false s n a⟩

/-- A cut in a comment after a slash that a star follows, and one after an escaped line feed. -/
theorem scan_in_pieces_comment :
    (cutsPair true (scan true {} "/*/".toList) "/*/".toList "*/(".toList = false ∧
      scan true {} ("/*/".toList ++ "*/(".toList) =
        scan true (scan true {} "/*/".toList) "*/(".toList) ∧
    ("\x27\\\n".toList.getLast? = some '\n' ∧
      scan true {} ("\x27\\\n".toList ++ "\x27(".toList) =
        scan true (scan true {} "\x27\\\n".toList) "\x27(".toList) := by
  have hcut : cutsPair true (scan true {} "/*/".toList) "/*/".toList "*/(".toList = false := by
    decide
  have hline : "\x27\\\n".toList.getLast? = some '\n' := by decide
  exact ⟨⟨hcut, (scan_in_pieces true {} _ _).1 hcut⟩,
    ⟨hline, (scan_in_pieces true {} _ _).2.1 hline⟩⟩

-- Each kind of pair is there for a reason.
example : [("/", "*"), ("-", "-"), ("/**", "/"), ("\x27\\", "\x27")].all fun (a, b) =>
    scan true {} (a.toList ++ b.toList) ≠ scan true (scan true {} a.toList) b.toList := by decide

end SqlMargin.Lexical
