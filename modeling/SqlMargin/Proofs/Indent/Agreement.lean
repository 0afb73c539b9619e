import SqlMargin.Proofs.Buffer.History
import SqlMargin.Proofs.Indent.Pass

/-! The pass and the single lines. Where blank lines are indented too, a pass does what indenting
one line after another does, with whatever classifiers either of them reads. -/
namespace SqlMargin
open Edit (Turns perform)

variable {b : Buffer} {p : Page} {settings : Settings} {s : Style} {i : Nat}

lemma Edit.turns_checkLine (hp : b.document.page = p) (hi : i < p.lines.length) :
    Turns b (checkLine i) (.ok i, p) := by
  refine (Turns.document hp).bind fun b₁ _ h₁ => ?_
  have hcheck : b.document.checkLine i = .ok i := by
    subst hp
    unfold Document.checkLine Document.lineCount
    rw [if_pos ⟨Int.natCast_nonneg i, Int.ofNat_lt.2 hi⟩, Int.toNat_natCast]
  rw [hcheck]
  exact .lift h₁ _

section Memory

variable [Memory]

/-- One line, with the line above looked up. -/
lemma turns_indentLine (hs : settings.style = .ok s) (hb : b.Sound) {lexer : Option Lexer}
    (hf : b.Fits s.escapes lexer) (hp : b.document.page = p) (hi : i < p.lines.length) :
    Turns b (indentLine settings lexer none (some i)) (s.placeLine i p) := by
  unfold indentLine
  rw [hs]
  refine (Turns.lift hp (.ok s)).bind fun b₁ e₁ h₁ => ?_
  refine (Edit.turns_checkLine h₁ hi).bind fun b₂ e₂ h₂ => ?_
  have he := e₁.trans e₂
  exact Style.turns_indentLine (he.sound hb) (hf.evolves he) h₂ hi fun above hab => nomatch hab

/-- Line after line, each with a classifier of its own or one in service. -/
theorem turns_indentLines (hs : settings.style = .ok s) (hblank : s.blankLines = true)
    {lexers : Nat → Option Lexer} (n : Nat) (hb : b.Sound)
    (hf : ∀ j, b.Fits s.escapes (lexers j)) (hp : b.document.page = p)
    (hn : i + n = p.lines.length) :
    Turns b ((List.range' i n).mapM fun j => indentLine settings (lexers j) none (some j))
      (s.placeFrom n i p) := by
  induction n generalizing b i p with
  | zero => exact .pure hp _
  | succ n ih =>
    have hi : i < p.lines.length := by omega
    have hline := turns_indentLine hs hb (hf i) hp hi
    rw [List.range'_succ, List.mapM_cons, Style.placeFrom, Style.placeNext, hblank, Bool.not_true,
      Bool.and_false, if_neg Bool.false_ne_true]
    rcases s.placeLine_cases i p with ⟨f, _, hl⟩ | ⟨r, m, _, hl⟩
    · rw [hl] at hline ⊢
      exact hline.bind_error _
    · rw [hl] at hline ⊢
      refine hline.bind fun b₁ e₁ h₁ => Turns.map _ ?_
      apply ih (e₁.sound hb) (fun j => (hf j).evolves e₁) h₁
      rw [Page.length_place]
      omega

lemma Buffer.Lends.fits {b : Buffer} (hb : b.Sound) {calls : List Call} {e : Bool}
    {lexer : Option Lexer} (h : b.Lends calls e lexer) : (b.after calls).Fits e lexer :=
  fun l hl =>
    let ⟨k, hk, ho⟩ := h l hl
    ⟨k, hk, serves_of_opened hb ho⟩

/-- In a buffer with any history, a pass and the lines one after another come to the same records,
the same text and the same cursor, or to the same fault. -/
theorem indentBuffer_eq_indentLines (t : List Char) (cursor : Int) (calls : List Buffer.Call)
    (settings : Settings) (s : Style) (hs : settings.style = .ok s) (hblank : s.blankLines = true)
    (lexer : Option Lexer) (lexers : Nat → Option Lexer)
    (hl : (Buffer.ofText t cursor).Lends calls s.escapes lexer)
    (hls : ∀ i, (Buffer.ofText t cursor).Lends calls s.escapes (lexers i)) :
    let b := (Buffer.ofText t cursor).after calls
    let pass := perform b (indentBuffer settings lexer)
    let lines := perform b ((List.range b.document.lineCount).mapM fun i : Nat =>
      indentLine settings (lexers i) none (some i))
    pass.1 = lines.1 ∧ pass.2.document.text = lines.2.document.text ∧
      pass.2.document.cursor = lines.2.document.cursor := by
  intro b pass lines
  have hstart := Buffer.sound_ofText t cursor
  have hb : b.Sound := (Buffer.carries_after hstart calls).1
  obtain ⟨b₁, h₁, _, hp₁⟩ := turns_indentBuffer hs hb (hl.fits hstart) rfl
  obtain ⟨b₂, h₂, _, hp₂⟩ := turns_indentLines hs hblank b.document.lineCount hb
    (fun i => (hls i).fits hstart) rfl (Nat.zero_add _)
  rw [← List.range_eq_range'] at h₂
  have hpass : pass = _ := h₁
  have heach : lines = _ := h₂
  have hpage : b₁.document.page = b₂.document.page := hp₁.trans hp₂.symm
  rw [hpass, heach]
  exact ⟨rfl, congrArg Text.joinLines (congrArg Page.lines hpage), congrArg Page.cursor hpage⟩

end Memory

section Ample

attribute [local instance] Memory.ample

/-- A pass with a classifier of its own against lines with one that was open and had answered. -/
theorem indentBuffer_eq_indentLines_shared :
    let b := (Buffer.ofText "a (\nb".toList 5).after [.openClassifier true, .stateAt 0 3]
    let pass := perform b (indentBuffer {} none)
    let lines := perform b ((List.range b.document.lineCount).mapM fun i : Nat =>
      indentLine {} (some (.classifier 0)) none (some i))
    pass.1 = lines.1 ∧ pass.2.document.text = lines.2.document.text ∧
      pass.2.document.cursor = lines.2.document.cursor :=
  indentBuffer_eq_indentLines "a (\nb".toList 5 _ {} _ rfl rfl none
    (fun _ => some (.classifier 0)) (fun _ h => nomatch h)
    fun _ _ h => ⟨0, (Option.some.inj h).symm, [], [.stateAt 0 3], rfl, rfl, by simp⟩

end Ample
end SqlMargin
