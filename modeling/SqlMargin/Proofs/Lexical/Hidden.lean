import Mathlib.Data.List.Infix
import SqlMargin.Proofs.Lexical.LineStates
import SqlMargin.Text.Blank

/-! What scanning does not see: whitespace outside line comments, letters at the end of a text, and
most characters inside literals and comments. What it does see is how a literal starts. -/
namespace SqlMargin.Lexical

/-! ### Whitespace -/

lemma notMem_special_of_isBlank {c : Char} (h : Text.isBlank c = true) (hn : c ≠ '\n') :
    c ∉ special := by
  intro hc
  have hspecial : special.all (fun c => c == '\n' || !Text.isBlank c) = true := by decide
  simpa [h, hn] using List.all_eq_true.1 hspecial c hc

/-- Whitespace, line feeds among it, moves no state but that of a line comment. -/
lemma advance_isBlank {s : State} (h : s.Natural) (hl : s.context ≠ .lineComment) (e : Bool)
    {c : Char} (hc : Text.isBlank c = true) (next : Option Char) :
    s.advance e c next = (s, false) := by
  by_cases hn : c = '\n'
  · subst hn
    have hne := h.quote_ne (c := '\n') (by decide)
    unfold State.advance
    cases hs : s.context with
    | code => simp [isQuote]
    | string => simp [hne]
    | lineComment => exact absurd hs hl
    | blockComment => simp
  · exact advance_of_notMem_special h e (notMem_special_of_isBlank hc hn) next

theorem scan_blank_append {s : State} (h : s.Natural) (hl : s.context ≠ .lineComment) (e : Bool)
    (w t : List Char) (hw : ∀ c ∈ w, Text.isBlank c = true) : scan e s (w ++ t) = scan e s t := by
  induction w with
  | nil => rfl
  | cons c w ih =>
    have hc := advance_isBlank h hl e (hw c List.mem_cons_self) (w ++ t).head?
    have ih := ih fun x hx => hw x (List.mem_cons_of_mem c hx)
    simpa only [scan, List.cons_append, scanFrom, hc] using ih

/-- Neither a line feed nor two characters that go together leave a line comment open. -/
lemma context_advance_ne (e : Bool) (s : State) (c : Char) (next : Option Char)
    (h : c = '\n' ∨ (s.advance e c next).2 = true) :
    (s.advance e c next).1.context ≠ .lineComment := by
  unfold State.advance at h ⊢
  cases hs : s.context with
  | code =>
    simp only [hs] at h ⊢
    repeat' split
    all_goals simp_all
  | string =>
    simp only [hs] at h ⊢
    repeat' split
    all_goals simp_all
  | lineComment =>
    simp only [hs] at h ⊢
    split
    · simp
    · simp_all
  | blockComment =>
    simp only
    split <;> simp [hs]

lemma context_scanFrom_ne (e taken : Bool) {s : State} (l : List Char)
    (h : taken = true → s.context ≠ .lineComment) :
    (scanFrom e taken s (l ++ ['\n'])).context ≠ .lineComment := by
  induction l generalizing taken s with
  | nil =>
    cases taken with
    | true => exact h rfl
    | false => exact context_advance_ne e s '\n' none (.inl rfl)
  | cons c l ih =>
    cases taken with
    | true => exact ih false fun hf => by cases hf
    | false => exact ih _ fun ht => context_advance_ne e s c _ (.inr ht)

/-- No line comment goes on after a line feed. -/
theorem context_scan_newline_ne (e : Bool) (s : State) (l : List Char) :
    (scan e s (l ++ ['\n'])).context ≠ .lineComment :=
  context_scanFrom_ne e false l fun hf => by cases hf

/-! ### The character that follows -/

/-- A character decides alone, unless a comment may start or end with the next one. -/
lemma advance_some (e : Bool) (s : State) (c : Char) {x : Char} (hstar : x ≠ '*') (hslash : x ≠ '/')
    (hdash : x ≠ '-' ∨ (s.advance e c none).1.isLiteral = true) :
    s.advance e c (some x) = s.advance e c none := by
  unfold State.advance at hdash ⊢
  cases hs : s.context with
  | code =>
    simp only [hs] at hdash
    rcases hdash with hx | hx
    · simp [hstar, hx]
    · -- A lone dash leaves code as it is, so here the character is another one.
      have hc : c ≠ '-' := by
        rintro rfl
        simp [isQuote, State.isLiteral, hs] at hx
      simp [hstar, hc]
  | string => rfl
  | lineComment => rfl
  | blockComment => simp [hslash]

lemma scanFrom_append_plain (e taken : Bool) {s : State} (h : s.Natural) (a w : List Char)
    (hw : ∀ c ∈ w, c ∉ special) : scanFrom e taken s (a ++ w) = scanFrom e taken s a := by
  have hplain : ∀ {s : State}, s.Natural → ∀ w : List Char, (∀ c ∈ w, c ∉ special) →
      scanFrom e false s w = s := by
    intro s h w hw
    have hs := scan_plain_append h e w [] hw
    rwa [List.append_nil, scan_nil] at hs
  induction a generalizing taken s with
  | nil =>
    cases taken with
    | false => rw [List.nil_append, hplain h w hw, scanFrom]
    | true =>
      cases w with
      | nil => rfl
      | cons c w =>
        rw [List.nil_append, scanFrom, scanFrom]
        exact hplain h w fun x hx => hw x (List.mem_cons_of_mem c hx)
  | cons c a ih =>
    cases taken with
    | true => exact ih false h
    | false =>
      have hnext : s.advance e c (a ++ w).head? = s.advance e c a.head? := by
        cases a with
        | cons _ _ => rfl
        | nil =>
          cases w with
          | nil => rfl
          | cons x w =>
            have hx := hw x List.mem_cons_self
            apply advance_some e s c
            · rintro rfl
              exact hx (by decide)
            · rintro rfl
              exact hx (by decide)
            · refine .inl ?_
              rintro rfl
              exact hx (by decide)
      rw [List.cons_append, scanFrom, scanFrom, hnext]
      exact ih _ (h.advance e c a.head?)

/-- Letters at the end of a text leave the state as it is, even if the first of them is escaped. -/
theorem scan_append_plain (e : Bool) {s : State} (h : s.Natural) (a w : List Char)
    (hw : ∀ c ∈ w, c ∉ special) : scan e s (a ++ w) = scan e s a :=
  scanFrom_append_plain e false h a w hw

/-! ### Hidden characters -/

/-- Whether a character in a literal or a comment takes no part in ending it. -/
def isInert (c : Char) : Bool :=
  !Text.isBlank c && !isQuote c && c != '\\' && c != '*' && c != '/'

lemma isInert_iff (c : Char) : isInert c = true ↔
    Text.isBlank c = false ∧ isQuote c = false ∧ c ≠ '\\' ∧ c ≠ '*' ∧ c ≠ '/' := by
  simp [isInert, and_assoc]

lemma ne_newline_of_isInert {c : Char} (h : isInert c = true) : c ≠ '\n' := by
  rintro rfl
  revert h
  decide

lemma advance_isInert {s : State} (h : s.Natural) (hl : s.isLiteral = true) (e : Bool) {c : Char}
    (hc : isInert c = true) (next : Option Char) : s.advance e c next = (s, false) := by
  have hn := ne_newline_of_isInert hc
  obtain ⟨_, hquote, hslash, hstar, _⟩ := (isInert_iff c).1 hc
  have hne := h.quote_ne hquote
  unfold State.advance
  cases hs : s.context with
  | code => simp [State.isLiteral, hs] at hl
  | string => simp [hslash, hne]
  | lineComment => simp [hn]
  | blockComment => simp [hstar]

lemma scanFrom_hidden (e taken : Bool) {s : State} (h : s.Natural) (a b : List Char) {x : Char}
    (hx : isInert x = true) (hl : (scanFrom e taken s a).isLiteral = true) :
    scanFrom e taken s (a ++ x :: b) = scan e (scanFrom e taken s a) b := by
  obtain ⟨_, _, _, hstar, hslash⟩ := (isInert_iff x).1 hx
  induction a generalizing taken s with
  | nil =>
    rw [scanFrom] at hl ⊢
    cases taken with
    | true => rfl
    | false =>
      rw [List.nil_append, scanFrom, advance_isInert h hl e hx]
      rfl
  | cons c a ih =>
    cases taken with
    | true => exact ih false h hl
    | false =>
      rw [scanFrom] at hl ⊢
      have hnext : s.advance e c (a ++ x :: b).head? = s.advance e c a.head? := by
        cases a with
        | cons _ _ => rfl
        | nil => exact advance_some e s c hstar hslash (.inr hl)
      rw [List.cons_append, scanFrom, hnext]
      exact ih _ (h.advance e c a.head?) hl

/-- An inert character after a text that leaves a literal open counts for nothing. -/
theorem scan_hidden (e : Bool) {s : State} (h : s.Natural) (a b : List Char) {x : Char}
    (hx : isInert x = true) (hl : (scan e s a).isLiteral = true) :
    scan e s (a ++ x :: b) = scan e (scan e s a) b := scanFrom_hidden e false h a b hx hl

/-! ### Openers -/

/-- What literals and comments start with. -/
def openers : List (List Char) := [['\x27'], ['"'], ['\x60'], ['#'], ['-', '-'], ['/', '*']]

/-- A text with something in it that starts a literal or a comment. -/
def HoldsOpener (w : List Char) : Prop := ∃ o ∈ openers, o <:+: w

instance : DecidablePred HoldsOpener := fun w =>
  inferInstanceAs (Decidable (∃ o ∈ openers, o <:+: w))

lemma HoldsOpener.mono {u w : List Char} (h : HoldsOpener u) (hw : u <:+: w) : HoldsOpener w :=
  let ⟨o, ho, hu⟩ := h
  ⟨o, ho, hu.trans hw⟩

/-- Nothing but an opener leads from code into a literal or a comment. -/
theorem holdsOpener_of_isLiteral (e : Bool) {s : State} (hs : s.isLiteral = false) (u : List Char)
    (h : (scan e s u).isLiteral = true) : HoldsOpener u := by
  induction u generalizing s with
  | nil => simp [hs] at h
  | cons c u ih =>
    have hcode : s.context = .code := by simpa [State.isLiteral] using hs
    have hrest : ∀ {t : State}, t.isLiteral = false → (scan e t u).isLiteral = true →
        HoldsOpener (c :: u) :=
      fun ht h => (ih ht h).mono (List.suffix_cons c u).isInfix
    have hone : [c] ∈ openers → HoldsOpener (c :: u) :=
      fun ho => ⟨[c], ho, (List.prefix_append [c] u).isInfix⟩
    have hpair : ∀ {x : Char}, [c, x] ∈ openers → u.head? = some x → HoldsOpener (c :: u) := by
      intro x ho hx
      obtain ⟨r, rfl⟩ := List.head?_eq_some_iff.1 hx
      exact ⟨[c, x], ho, (List.prefix_append [c, x] r).isInfix⟩
    simp only [scan, scanFrom, State.advance, hcode] at h
    split at h
    · next hq =>
      rcases (isQuote_iff c).1 hq with rfl | rfl | rfl
      · exact hone (by decide)
      · exact hone (by decide)
      · exact hone (by decide)
    · split at h
      · next hc =>
        simp only [Bool.and_eq_true, decide_eq_true_eq] at hc
        obtain ⟨rfl, hx⟩ := hc
        exact hpair (by decide) hx
      · split at h
        · next hc =>
          simp only [Bool.or_eq_true, Bool.and_eq_true, decide_eq_true_eq] at hc
          rcases hc with rfl | ⟨rfl, hx⟩
          · exact hone (by decide)
          · exact hpair (by decide) hx
        · split at h
          · exact hrest (by simp [State.isLiteral]) h
          · split at h
            · exact hrest (by simp [State.isLiteral]) h
            · exact hrest hs h

end SqlMargin.Lexical
