import SqlMargin.Proofs.Indent.Pass

/-! Faults while a level is worked out. Whichever lexer is asked, classifier or oracle, nothing
fails but the questions put to it; and whatever it answers, the level is counted from the line above
that is given or found. -/
namespace SqlMargin
open Edit (Answers perform)

namespace Edit

variable {α β : Type} {faulty : Fault → Prop} {b : Buffer} {P : α → Prop} {Q : β → Prop}

/-- Work that does nothing to the buffer but taking notes ends with a result that has property `P`,
or with a fault of some kind. -/
def Ends (faulty : Fault → Prop) (b : Buffer) (work : Edit α) (P : α → Prop) : Prop :=
  ∃ b', b.Reads b' ∧ ((∃ a, P a ∧ perform b work = (.ok a, b')) ∨
    ∃ f, faulty f ∧ perform b work = (.error f, b'))

lemma Answers.ends {work : Edit α} {a : α} (h : Answers b work (.ok a)) (ha : P a) :
    Ends faulty b work P := by
  obtain ⟨b', hp, hr⟩ := h
  exact ⟨b', hr, .inl ⟨a, ha, hp⟩⟩

namespace Ends

lemma pure {a : α} (h : P a) : Ends faulty b (Pure.pure a) P := (Answers.pure a).ends h

lemma bind {work : Edit α} {next : α → Edit β} (h : Ends faulty b work P)
    (hn : ∀ a b', P a → b.Reads b' → Ends faulty b' (next a) Q) :
    Ends faulty b (work >>= next) Q := by
  obtain ⟨b', hr, ⟨a, ha, hp⟩ | ⟨f, hf, hp⟩⟩ := h
  · obtain ⟨b'', hr', hcases⟩ := hn a b' ha hr
    rw [← perform_bind_ok hp] at hcases
    exact ⟨b'', hr.trans hr', hcases⟩
  · exact ⟨b', hr, .inr ⟨f, hf, perform_bind_error hp next⟩⟩

/-- Nothing is said but that the work only reads. -/
lemma of_keeps {work : Edit α} (h : Keeps b.Reads work) :
    Ends (fun _ => True) b work fun _ => True := by
  have hr := h b (.refl b)
  rcases hp : perform b work with ⟨f | a, b'⟩
  all_goals rw [hp] at hr
  · exact ⟨b', hr, .inr ⟨f, trivial, hp⟩⟩
  · exact ⟨b', hr, .inl ⟨a, trivial, hp⟩⟩

end Ends

variable (b)

lemma ends_document : Ends faulty b document (· = b.document) := Answers.document.ends rfl

lemma ends_lineAt (p : Int) : Ends faulty b (lineAt p) (· < b.document.lineCount) :=
  (answers_lineAt b p).ends (b.document.lineAt_lt p)

end Edit

open Edit (Ends)

/-- The margin that the level of line `i` is counted from: that of the line above, which is given or
looked for. -/
def Outline.indentGiven (s : Style) (ls : List (List Char)) (i : Nat)
    (given : Option (Previous Int)) : Int :=
  given.elim (indentAbove s ls i) Previous.indent

namespace Lexer

variable {faulty : Fault → Prop} {b : Buffer} {l : Lexer}

/-- Questions to a lexer fail with faults of one kind only, be it none, however the buffer
changes. -/
def FailsBy (l : Lexer) (faulty : Fault → Prop) (b : Buffer) : Prop :=
  ∀ b', b.Evolves b' →
    (∀ p, Ends faulty b' (l.isLiteral p) fun _ => True) ∧
      ∀ p q, Ends faulty b' (l.depthDelta p q) fun _ => True

lemma failsBy_any (l : Lexer) (b : Buffer) : l.FailsBy (fun _ => True) b := fun _ _ =>
  ⟨fun p => .of_keeps (l.keeps_isLiteral p), fun p q => .of_keeps (l.keeps_depthDelta p q)⟩

/-- An oracle has an answer to every question. -/
lemma failsBy_oracle (o : Oracle) (b : Buffer) : (oracle o).FailsBy (fun _ => False) b := by
  intro b' _
  have hask : ∀ {α : Type} (question : Nat → Document → α),
      Answers b' (ask question) (.ok (question b'.asked b'.document)) := fun question =>
    ⟨_, rfl, keeps_ask question b' (.refl b')⟩
  exact ⟨fun p => (hask fun n d => o.literal n d p).ends trivial,
    fun p q => (hask fun n d => o.depthDelta n d p q).ends trivial⟩

/-- So has a classifier in service. -/
lemma failsBy_classifier {k : Nat} {e : Bool} (h : b.Serves k e) :
    (classifier k).FailsBy (fun _ => False) b := by
  intro b' hb
  have h := h.evolves hb
  refine ⟨fun p => ?_, fun p q => (answers_depthDelta h p q).ends trivial⟩
  have hliteral : ∃ a, Answers b' ((classifier k).isLiteral p) (.ok a) :=
    ⟨_, (Edit.answers_stateAt h p).bind fun _ _ => .pure _⟩
  obtain ⟨a, ha⟩ := hliteral
  exact ha.ends trivial

namespace FailsBy

variable (h : l.FailsBy faulty b)

include h

lemma evolves {b' : Buffer} (hb : b.Evolves b') : l.FailsBy faulty b' :=
  fun b'' hb' => h b'' (hb.trans hb')

lemma ends_isLiteral (p : Int) : Ends faulty b (l.isLiteral p) fun _ => True :=
  (h b (.refl b)).1 p

lemma ends_depthDelta (p q : Int) : Ends faulty b (l.depthDelta p q) fun _ => True :=
  (h b (.refl b)).2 p q

lemma ends_codeText (p : Int) : Ends faulty b (l.codeText p) fun _ => True := by
  refine (Edit.ends_lineAt b p).bind fun i b₁ hi r₁ => ?_
  refine (Edit.ends_document b₁).bind fun d b₂ _ r₂ => ?_
  have h₂ := h.evolves (r₁.trans r₂).toEvolves
  have hi : i < b₂.document.lineCount := by rwa [Document.lineCount, (r₁.trans r₂).lines]
  dsimp only
  cases Text.allBlank (contentOf (d.line i)) with
  | true => exact .pure trivial
  | false =>
    refine ((Edit.answers_marginEnd hi).ends (P := fun _ => True) trivial).bind fun n b₃ _ r₃ => ?_
    refine ((h₂.evolves r₃.toEvolves).ends_isLiteral n).bind fun literal _ _ _ => ?_
    cases literal with
    | true => exact .pure trivial
    | false => exact .pure trivial

/-- Keywords may be asked for in any way that has an answer. -/
lemma ends_startsWithKeyword {keyword : List Char → Except Fault Bool}
    (hk : ∀ w, ∃ r, keyword w = .ok r) (p : Int) :
    Ends faulty b (l.startsWithKeyword keyword p) fun _ => True := by
  refine (h.ends_codeText p).bind fun content b₁ _ _ => ?_
  cases content with
  | none => exact .pure trivial
  | some content =>
    have hmatch : ∃ r, matchKeyword keyword content = .ok r := by
      unfold matchKeyword
      split
      · exact ⟨false, rfl⟩
      · exact hk _
    obtain ⟨r, hr⟩ := hmatch
    have hlift := Answers.lift (b := b₁) (matchKeyword keyword content)
    rw [hr] at hlift
    dsimp only
    rw [hr]
    exact hlift.ends trivial

lemma ends_startsWithCloser (p : Int) :
    Ends faulty b (l.startsWithCloser p) fun _ => True :=
  (h.ends_codeText p).bind fun _ _ _ _ => .pure trivial

lemma ends_endsWithContinuation {i : Nat} (hi : i < b.document.lineCount) :
    Ends faulty b (l.endsWithContinuation i) fun _ => True := by
  refine (Edit.ends_document b).bind fun d b₁ hd r₁ => ?_
  subst hd
  cases i with
  | zero => exact .pure trivial
  | succ i =>
    rw [if_neg (by omega)]
    have hlast : i < b₁.document.lineCount := by
      rw [Document.lineCount, r₁.lines]
      exact Nat.lt_of_succ_lt hi
    have hcheck := Edit.answers_checkLine (n := (i + 1 : Nat) - 1) (by omega) hlast
    refine (hcheck.ends (P := (· = i)) rfl).bind fun j b₂ hj r₂ => ?_
    subst hj
    cases hj : b.document.codeAbove? (j + 1) with
    | none => exact .pure trivial
    | some k =>
      have hlt : k < j + 1 := (Outline.above?_spec _ hj).1
      have hk : k < b₂.document.lineCount := by
        rw [Document.lineCount, (r₁.trans r₂).lines]
        exact hlt.trans hi
      refine ((Edit.answers_lineStart hk).ends (P := fun _ => True) trivial).bind
        fun start b₃ _ r₃ => ?_
      cases continuation? (Text.trimRight (b.document.line k)) with
      | none => exact .pure trivial
      | some c =>
        have h₃ := h.evolves ((r₁.trans r₂).trans r₃).toEvolves
        exact (h₃.ends_isLiteral _).bind fun _ _ _ _ => .pure trivial

lemma ends_raised {i : Nat} (hi : i < b.document.lineCount) (delta : Int) :
    Ends faulty b (l.raised i delta) fun _ => True := by
  unfold raised
  split
  · exact (h.ends_endsWithContinuation hi).bind fun _ _ _ _ => .pure trivial
  · exact .pure trivial

lemma ends_lowered (start : Nat) (delta : Int) :
    Ends faulty b (l.lowered start delta) fun _ => True := by
  unfold lowered
  split
  · exact (h.ends_startsWithCloser start).bind fun _ _ _ _ => .pure trivial
  · exact .pure trivial

/-- Whatever is answered, a level is counted from the margin of the line above that is given. -/
theorem ends_levelFrom (s : Style) (above : Previous Int) {i : Nat}
    (hi : i < b.document.lineCount) (start : Nat) :
    Ends faulty b (l.levelFrom s.reading.keyword above i start)
      fun level => level.previousIndent = above.indent := by
  have hkeyword : ∀ w, ∃ r, s.reading.keyword w = .ok r := fun w => ⟨_, rfl⟩
  refine (h.ends_depthDelta _ _).bind fun opened b₁ _ r₁ => ?_
  have h₁ := h.evolves r₁.toEvolves
  refine (h₁.ends_startsWithKeyword hkeyword _).bind fun after b₂ _ r₂ => ?_
  have h₂ := h₁.evolves r₂.toEvolves
  refine (h₂.ends_startsWithKeyword hkeyword _).bind fun here b₃ _ r₃ => ?_
  have h₃ := h₂.evolves r₃.toEvolves
  have hi : i < b₃.document.lineCount := by
    rwa [Document.lineCount, ((r₁.trans r₂).trans r₃).lines]
  refine (h₃.ends_raised hi _).bind fun delta b₄ _ r₄ => ?_
  exact ((h₃.evolves r₄.toEvolves).ends_lowered start delta).bind fun _ _ _ _ => .pure rfl

/-- The same where the line above is looked for if none is given. -/
theorem ends_levelAt (s : Style) (given : Option (Previous Int)) {i : Nat}
    (hi : i < b.document.lineCount) :
    Ends faulty b
      (levelAt s.reading (some l) given (Text.extent (b.document.lines.take i) : Nat))
      fun level => level.previousIndent = Outline.indentGiven s b.document.lines i given := by
  have hat := Edit.answers_lineAt b (Text.extent (b.document.lines.take i) : Nat)
  rw [b.document.lineAt_extent hi] at hat
  refine (hat.ends (P := (· = i)) rfl).bind fun j b₁ hj r₁ => ?_
  subst hj
  have hlt : j < b₁.document.lineCount := by rwa [Document.lineCount, r₁.lines]
  have hstart := Edit.answers_lineStart hlt
  rw [r₁.lines] at hstart
  refine (hstart.ends (P := (· = _)) rfl).bind fun start b₂ hstart r₂ => ?_
  subst hstart
  have r₂ := r₁.trans r₂
  change Ends faulty b₂ (do
    l.levelFrom s.reading.keyword (← givenOrAbove s.reading.ruler given
      (Text.extent (b.document.lines.take j) : Nat)) j (Text.extent (b.document.lines.take j))) _
  have habove : Ends faulty b₂ (givenOrAbove s.reading.ruler given
      (Text.extent (b.document.lines.take j) : Nat))
      fun above => above.indent = Outline.indentGiven s b.document.lines j given := by
    cases given with
    | some above => exact .pure rfl
    | none =>
      have hlt : j < b₂.document.lineCount := by rwa [Document.lineCount, r₂.lines]
      have hfound := answers_previousLine b₂ s hlt
      rw [r₂.lines] at hfound
      exact hfound.ends rfl
  refine habove.bind fun above b₃ habove r₃ => ?_
  have r₃ := r₂.trans r₃
  rw [← habove]
  exact (h.evolves r₃.toEvolves).ends_levelFrom s above (by rwa [Document.lineCount, r₃.lines]) _

end FailsBy
end Lexer

/-- A line is placed at some level, counted from the line above that is given or found, or a
question to the lexer fails. -/
theorem Style.indentLine_cases [Memory] {faulty : Fault → Prop} {b : Buffer} {p : Page} {l : Lexer}
    (h : l.FailsBy faulty b) (hp : b.document.page = p) (s : Style)
    (given : Option (Previous Int)) {i : Nat} (hi : i < p.lines.length) :
    (∃ f b', faulty f ∧ perform b (s.indentLine (some l) given i) = (.error f, b')) ∨
      ∃ level : Level Int, level.previousIndent = Outline.indentGiven s p.lines i given ∧
        Edit.Turns b (s.indentLine (some l) given i) (s.placeAt level i p) := by
  subst hp
  obtain ⟨b₁, hstart, h₁, hpage⟩ := Edit.turns_lineStart rfl hi
  have hlines : b₁.document.lines = b.document.lines := congrArg Page.lines hpage
  have hlevel := (h.evolves h₁).ends_levelAt s given (i := i) (by rwa [Document.lineCount, hlines])
  rw [hlines] at hlevel
  unfold Style.indentLine
  obtain ⟨b₂, r₂, ⟨level, habove, hwork⟩ | ⟨f, hf, hwork⟩⟩ := hlevel
  · have hpage₂ : b₂.document.page = b.document.page :=
      (congrArg₂ Page.mk r₂.lines r₂.cursor).trans hpage
    obtain ⟨b₃, hplace, h₃, hpage₃⟩ := Style.turns_placeAt hpage₂ hi s level
    refine .inr ⟨level, habove, b₃, ?_, (h₁.trans r₂.toEvolves).trans h₃, hpage₃⟩
    exact (Edit.perform_bind_ok hstart _).trans ((Edit.perform_bind_ok hwork _).trans hplace)
  · refine .inl ⟨f, b₂, hf, ?_⟩
    exact (Edit.perform_bind_ok hstart _).trans (Edit.perform_bind_error hwork _)

end SqlMargin
