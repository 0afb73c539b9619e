import SqlMargin.Indent.Pass
import SqlMargin.Proofs.Buffer.Questions

/-! What indenting does not touch. Working out a level only reads, with whatever lexer and settings;
indenting changes neither who follows the edits nor how their classifiers read, and keeps a sound
buffer sound. All of it holds of work that fails, too. -/
namespace SqlMargin
open Edit (Keeps)

variable {b₀ : Buffer} {α : Type}

namespace Lexer

lemma keeps_codeText (l : Lexer) (p : Int) : Keeps b₀.Reads (l.codeText p) := by
  refine (Edit.keeps_lineAt p).bind fun i => Keeps.document.bind fun d => ?_
  refine Keeps.ite (.pure _) ?_
  refine (Edit.keeps_marginEnd i).bind fun n => (l.keeps_isLiteral n).bind fun literal => ?_
  exact Keeps.ite (.pure _) (.pure _)

lemma keeps_startsWithKeyword (l : Lexer) (keyword : List Char → Except Fault Bool) (p : Int) :
    Keeps b₀.Reads (l.startsWithKeyword keyword p) := by
  refine (l.keeps_codeText p).bind fun content => ?_
  cases content with
  | none => exact .pure _
  | some content => exact .lift _

lemma keeps_startsWithCloser (l : Lexer) (p : Int) :
    Keeps b₀.Reads (l.startsWithCloser p) :=
  (l.keeps_codeText p).bind fun _ => .pure _

lemma keeps_endsWithContinuation (l : Lexer) (n : Int) :
    Keeps b₀.Reads (l.endsWithContinuation n) := by
  refine Keeps.document.bind fun d => Keeps.ite (.pure _) ?_
  refine (Edit.keeps_checkLine _).bind fun last => ?_
  cases d.codeAbove? (last + 1) with
  | none => exact .pure _
  | some i =>
    refine (Edit.keeps_lineStart i).bind fun start => ?_
    cases continuation? (Text.trimRight (d.line i)) with
    | none => exact .pure _
    | some k => exact (l.keeps_isLiteral _).bind fun _ => .pure _

lemma keeps_raised (l : Lexer) (i : Nat) (delta : Int) : Keeps b₀.Reads (l.raised i delta) :=
  Keeps.ite ((l.keeps_endsWithContinuation i).bind fun _ => .pure _) (.pure _)

lemma keeps_lowered (l : Lexer) (start : Nat) (delta : Int) :
    Keeps b₀.Reads (l.lowered start delta) :=
  Keeps.ite ((l.keeps_startsWithCloser start).bind fun _ => .pure _) (.pure _)

lemma keeps_levelFrom (l : Lexer) (keyword : List Char → Except Fault Bool)
    (previous : Previous α) (i start : Nat) :
    Keeps b₀.Reads (l.levelFrom keyword previous i start) := by
  refine (l.keeps_depthDelta _ _).bind fun opened => ?_
  refine (l.keeps_startsWithKeyword _ _).bind fun after => ?_
  refine (l.keeps_startsWithKeyword _ _).bind fun here => ?_
  exact (l.keeps_raised i _).bind fun delta => (l.keeps_lowered start delta).bind fun _ => .pure _

end Lexer

lemma keeps_previousLine (r : Ruler α) (p : Int) : Keeps b₀.Reads (previousLine r p) := by
  refine (Edit.keeps_lineAt p).bind fun i => Keeps.document.bind fun d => ?_
  cases d.codeAbove? i with
  | none => exact .pure _
  | some j => exact (Edit.keeps_lineStart j).bind fun _ => (Keeps.lift _).bind fun _ => .pure _

lemma keeps_givenOrAbove (r : Ruler α) (given : Option (Previous α)) (p : Int) :
    Keeps b₀.Reads (givenOrAbove r given p) := by
  cases given with
  | none => exact keeps_previousLine r p
  | some above => exact .pure above

theorem keeps_levelAt (hb : b₀.Housed) (r : Reading α) (lexer : Option Lexer)
    (previous : Option (Previous α)) (p : Int) : Keeps b₀.Reads (levelAt r lexer previous p) := by
  refine (Edit.keeps_lineAt p).bind fun i => (Edit.keeps_lineStart i).bind fun start => ?_
  refine Lexer.keeps_during hb lexer _ fun b₁ _ l => ?_
  exact (keeps_givenOrAbove _ previous _).bind fun above => l.keeps_levelFrom _ above i start

/-- Work that only reads leaves as much as work that edits. -/
lemma Edit.Keeps.evolves (hb : b₀.Housed) {work : Edit α}
    (h : ∀ b₁ : Buffer, b₁.Housed → Keeps b₁.Reads work) : Keeps b₀.Evolves work :=
  fun b he => he.trans (h b (he.housed hb) b (.refl b)).toEvolves

lemma take_modify_self (ls : List α) (f : α → α) (i : Nat) :
    (ls.modify i f).take i = ls.take i := by
  rw [List.take_modify, List.modify_eq_self]
  rw [List.length_take]
  omega

lemma evolves_replaceMargin (b : Buffer) (i : Nat) (m : Margin) :
    b.Evolves (b.replaceMargin i m) := by
  apply Buffer.evolves_changed
  rw [Document.lines_replaceMargin, take_modify_self]

lemma evolves_insert (b : Buffer) (p : Int) (s : List Char) : b.Evolves (b.insert p s) := by
  apply Buffer.evolves_changed
  have hlt := b.document.lineAt_lt p
  unfold Document.lineCount at hlt
  rw [Document.lines_insert, List.append_assoc, List.take_append_of_le_length (by simp; omega),
    List.take_take, Nat.min_self]

lemma evolves_moveCursor (b : Buffer) (p : Int) : b.Evolves (b.moveCursor p) :=
  ⟨rfl, rfl, fun h => h.document rfl⟩

lemma keeps_setMargin [Memory] (hb : b₀.Housed) (i : Nat) (m : Margin) :
    Keeps b₀.Evolves (Edit.setMargin i m) := by
  have hmove : ∀ p, Keeps b₀.Evolves (Edit.moveCursor p) := fun p =>
    .modify fun b he => he.trans (evolves_moveCursor b p)
  have hend : Keeps b₀.Evolves (Edit.marginEnd i) := .evolves hb fun _ _ => Edit.keeps_marginEnd i
  have hstart : Keeps b₀.Evolves (Edit.lineStart i) := .evolves hb fun _ _ => Edit.keeps_lineStart i
  refine Keeps.document.bind fun d => hstart.bind fun start => hend.bind fun stop => ?_
  refine (Keeps.lift _).bind fun _ => Keeps.bind (.modify fun b he => ?_) fun _ => ?_
  · split
    · exact he.trans (evolves_replaceMargin b i m)
    · exact he
  · refine Keeps.ite (.pure _) (Keeps.ite ?_ ?_)
    · exact hend.bind fun _ => hmove _
    · exact Keeps.document.bind fun _ => hmove _

namespace Style

lemma keeps_report (s : Style) (m : Diagnostic) : Keeps b₀.Evolves (s.report m) :=
  Keeps.ite (.modify fun _ he => he.trans ⟨rfl, rfl, fun h => ⟨h.below, h.coherent⟩⟩) (.pure _)

theorem keeps_indentLine [Memory] (hb : b₀.Housed) (s : Style) (lexer : Option Lexer)
    (previous : Option (Previous Int)) (i : Nat) :
    Keeps b₀.Evolves (s.indentLine lexer previous i) := by
  refine (Keeps.evolves hb fun _ _ => Edit.keeps_lineStart i).bind fun start => ?_
  refine (Keeps.evolves hb fun _ h => keeps_levelAt h _ _ _ _).bind fun level => ?_
  refine (Keeps.lift _).bind fun margin => (keeps_setMargin hb i margin).bind fun _ => ?_
  exact (s.keeps_report _).bind fun _ => .pure _

lemma keeps_passed (previous : Option (Previous Int)) (i indent : Nat) :
    Keeps b₀.Reads (passed previous i indent) :=
  Keeps.document.bind fun _ =>
    Keeps.ite (.pure _) ((Edit.keeps_lineStart i).bind fun _ => .pure _)

lemma keeps_indentFrom [Memory] (hb : b₀.Housed) (s : Style) (lexer : Lexer) (n i : Nat)
    (previous : Option (Previous Int)) : Keeps b₀.Evolves (s.indentFrom lexer n i previous) := by
  induction n generalizing i previous with
  | zero => exact .pure _
  | succ n ih =>
    refine Keeps.document.bind fun d => Keeps.ite ?_ ?_
    · exact (keeps_setMargin hb i _).bind fun _ => ih (i + 1) previous
    · refine (s.keeps_indentLine hb _ _ _).bind fun record => ?_
      refine (Keeps.evolves hb fun _ _ => keeps_passed _ _ _).bind fun above => ?_
      exact (ih (i + 1) above).bind fun _ => .pure _

theorem keeps_indentBuffer [Memory] (hb : b₀.Housed) (s : Style) (lexer : Option Lexer) :
    Keeps b₀.Evolves (s.indentBuffer lexer) :=
  Lexer.keeps_during_evolves hb lexer _ fun _ h l =>
    Keeps.document.bind fun _ => s.keeps_indentFrom h l _ _ _

end Style

theorem keeps_indentLine [Memory] (hb : b₀.Housed) (s : Settings) (lexer : Option Lexer)
    (previous : Option (Previous Int)) (line : Option Int) :
    Keeps b₀.Evolves (indentLine s lexer previous line) := by
  refine (Keeps.lift _).bind fun style => Keeps.bind ?_ fun i => style.keeps_indentLine hb _ _ i
  cases line with
  | none => exact Keeps.evolves hb fun _ _ => Edit.keeps_cursorLine
  | some n => exact Keeps.evolves hb fun _ _ => Edit.keeps_checkLine n

theorem keeps_indentBuffer [Memory] (hb : b₀.Housed) (s : Settings) (lexer : Option Lexer) :
    Keeps b₀.Evolves (indentBuffer s lexer) :=
  (Keeps.lift _).bind fun style => style.keeps_indentBuffer hb lexer

end SqlMargin
