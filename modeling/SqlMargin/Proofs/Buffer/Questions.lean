import SqlMargin.Proofs.Buffer.Sound

/-! Questions to a buffer: where lines start, in which line a position lies, and what a classifier
says about it. The answers hang on the lines alone, whatever was noted before. -/
namespace SqlMargin
open Lexical (Classifier)

namespace Document

@[simp] lemma lines_reach (d : Document) (i : Nat) : (d.reach i).lines = d.lines :=
  lines_noteWhile ..

@[simp] lemma cursor_reach (d : Document) (i : Nat) : (d.reach i).cursor = d.cursor :=
  cursor_noteWhile ..

@[simp] lemma lines_reachPast (d : Document) (p : Int) : (d.reachPast p).lines = d.lines :=
  lines_noteWhile ..

@[simp] lemma cursor_reachPast (d : Document) (p : Int) : (d.reachPast p).cursor = d.cursor :=
  cursor_noteWhile ..

/-- Documents with the same lines clamp positions in the same way. -/
lemma clamp_congr {d d' : Document} (h : d.lines = d'.lines) (p : Int) :
    d.clamp p = d'.clamp p := by
  have hd := d.length_succ
  have hd' := d'.length_succ
  rw [h] at hd
  unfold clamp
  congr 1
  omega

/-- The text before a position does not end sooner for positions past the end. -/
lemma take_clamp (d : Document) (p : Int) : d.text.take (d.clamp p) = d.text.take p.toNat := by
  rw [clamp, ← length_text, ← List.take_take, List.take_length]

lemma lineAt_congr {d d' : Document} (h : d.lines = d'.lines) (p : Int) :
    d.lineAt p = d'.lineAt p := by
  obtain ⟨hlt, hl, hr⟩ := d'.lineAt_spec p
  apply d.lineAt_eq
  · simpa [lineCount, h] using hlt
  · rwa [h, clamp_congr h]
  · rwa [h, clamp_congr h, line, h]

lemma lineAt_column (d : Document) (i c : Nat) (h : i < d.lineCount)
    (hc : c ≤ (d.line i).length) :
    d.lineAt ((Text.extent (d.lines.take i) + c : Nat) : Int) = i := by
  have hlen := d.length_eq i h
  have hp : d.clamp ((Text.extent (d.lines.take i) + c : Nat) : Int) =
      Text.extent (d.lines.take i) + c := by
    unfold clamp
    omega
  exact d.lineAt_eq _ i h (by omega) (by omega)

lemma lineAt_extent (d : Document) {i : Nat} (h : i < d.lineCount) :
    d.lineAt (Text.extent (d.lines.take i) : Nat) = i := d.lineAt_column i 0 h (Nat.zero_le _)

/-- Scanning a text up to a column of a line goes over the lines above first. -/
theorem scan_take_text (d : Document) (e : Bool) (i c : Nat) (h : i < d.lineCount)
    (hc : c ≤ (d.line i).length) :
    Lexical.scan e {} (d.text.take (Text.extent (d.lines.take i) + c)) =
      Lexical.scan e (Lexical.lineState e d.lines i) ((d.line i).take c) := by
  rw [text, Text.take_joinLines d.lines i c h hc, Lexical.scan_ended_append]
  rfl

end Document

namespace Edit

variable {α β : Type}

/-- A question with its answer: nothing is done to the buffer but taking notes. -/
def Answers (b : Buffer) (work : Edit α) (r : Except Fault α) : Prop :=
  ∃ b', perform b work = (r, b') ∧ Buffer.Reads b b'

namespace Answers

variable {b : Buffer}

lemma pure (a : α) : Answers b (Pure.pure a) (.ok a) := ⟨b, rfl, .refl b⟩

lemma lift (x : Except Fault α) : Answers b (liftM x) x := ⟨b, rfl, .refl b⟩

lemma document : Answers b Edit.document (.ok b.document) := ⟨b, rfl, .refl b⟩

lemma bind {work : Edit α} {next : α → Edit β} {a : α} {r : Except Fault β}
    (h : Answers b work (.ok a)) (hn : ∀ b', Buffer.Reads b b' → Answers b' (next a) r) :
    Answers b (work >>= next) r := by
  obtain ⟨b', hp, hr⟩ := h
  obtain ⟨b'', hp', hr'⟩ := hn b' hr
  exact ⟨b'', by rw [perform_bind_ok hp, hp'], hr.trans hr'⟩

end Answers

lemma answers_lineStart {b : Buffer} {i : Nat} (h : i < b.document.lineCount) :
    Answers b (lineStart i) (.ok (Text.extent (b.document.lines.take i))) := by
  refine ⟨{ b with document := b.document.reach i }, ?_,
    Buffer.reads_document b _ (by simp) (by simp)⟩
  unfold lineStart
  rw [perform_bind_ok (perform_consult ..), perform_pure, Document.lineStart_eq]
  · simp
  · simpa [Document.lineCount] using h

lemma answers_lineAt (b : Buffer) (p : Int) :
    Answers b (lineAt p) (.ok (b.document.lineAt p)) := by
  refine ⟨{ b with document := b.document.reachPast p }, ?_,
    Buffer.reads_document b _ (by simp) (by simp)⟩
  unfold lineAt
  rw [perform_bind_ok (perform_consult ..), perform_pure, Document.lineAt_congr]
  simp

lemma answers_marginEnd {b : Buffer} {i : Nat} (h : i < b.document.lineCount) :
    Answers b (marginEnd i) (.ok (Text.extent (b.document.lines.take i) +
      (marginOf (b.document.line i)).length)) := by
  refine (answers_lineStart h).bind fun b' hr => ?_
  refine Answers.document.bind fun _ _ => ?_
  rw [Document.margin, Document.line, hr.lines]
  exact Answers.pure _

lemma answers_checkLine {b : Buffer} {n : Int} {i : Nat} (hn : n = i)
    (hi : i < b.document.lineCount) : Answers b (checkLine n) (.ok i) := by
  refine Answers.document.bind fun b' _ => ?_
  have hin : b.document.checkLine n = .ok i := by
    unfold Document.checkLine
    rw [if_pos (by omega), hn, Int.toNat_natCast]
  rw [hin]
  exact .lift _

/-- What a classifier is asked for and what it keeps after it. -/
lemma perform_stateAt {b : Buffer} {k : Nat} {c : Classifier} (hk : b.classifiers[k]? = some c)
    (p : Int) :
    ∃ d : Document, d.lines = b.document.lines ∧ d.cursor = b.document.cursor ∧
      perform b (stateAt k p) =
        match c.stateIn d (b.document.lineAt p) (b.document.clamp p -
            Text.extent (b.document.lines.take (b.document.lineAt p))) with
        | .ok (s, c') => (.ok s, { b with document := d, classifiers := b.classifiers.set k c' })
        | .error f => (.error f, { b with document := d }) := by
  refine ⟨(b.document.reachPast p).reach (b.document.lineAt p), by simp, by simp, ?_⟩
  have hat : (b.document.reachPast p).lineAt p = b.document.lineAt p :=
    Document.lineAt_congr (by simp) p
  have hlt := b.document.lineAt_lt p
  have hstart : (((b.document.reachPast p).reach (b.document.lineAt p)).lineStart
      (b.document.lineAt p)) = Text.extent (b.document.lines.take (b.document.lineAt p)) := by
    rw [Document.lineStart_eq _ _ (by simpa [Document.lineCount] using hlt)]
    simp
  have hclamp : ((b.document.reachPast p).reach (b.document.lineAt p)).clamp p =
      b.document.clamp p := Document.clamp_congr (by simp) p
  unfold stateAt lineAt lineStart
  simp only [perform_bind, perform_get, hk, perform_consult, perform_pure, hat, perform_document,
    perform_lift, hstart, hclamp]
  rcases c.stateIn _ _ _ with f | ⟨s, c'⟩ <;> rfl

end Edit

namespace Buffer

/-- Classifier `k` follows the edits of a sound buffer and was made for escapes or without. -/
structure Serves (b : Buffer) (k : Nat) (e : Bool) : Prop where
  sound : b.Sound
  listens : .classifier k ∈ b.listeners
  escapes : (b.classifiers.map Classifier.escapes)[k]? = some e

lemma Serves.evolves {b b' : Buffer} {k : Nat} {e : Bool} (h : b.Serves k e) (hb : Evolves b b') :
    b'.Serves k e :=
  ⟨hb.sound h.sound, hb.listeners ▸ h.listens, hb.escapes ▸ h.escapes⟩

/-- Opening a classifier leaves those before it in service and takes up service itself. -/
lemma Serves.openClassifier {b : Buffer} {k : Nat} {e : Bool} (h : b.Serves k e) (e' : Bool) :
    (b.openClassifier e').Serves k e := by
  refine ⟨h.sound.openClassifier e', List.mem_append_left _ h.listens, ?_⟩
  have hlt : k < (b.classifiers.map Classifier.escapes).length := by
    simpa using h.sound.below k h.listens
  simp only [Buffer.openClassifier, List.map_append]
  rw [List.getElem?_append_left hlt]
  exact h.escapes

lemma Sound.serves_openClassifier {b : Buffer} (hs : b.Sound) (e : Bool) :
    (b.openClassifier e).Serves b.classifiers.length e :=
  ⟨hs.openClassifier e, by simp [Buffer.openClassifier],
    by simp [Buffer.openClassifier, Classifier.new]⟩

lemma Serves.exists_coherent {b : Buffer} {k : Nat} {e : Bool} (h : b.Serves k e) :
    ∃ c, b.classifiers[k]? = some c ∧ c.escapes = e ∧ c.Coherent b.document.lines := by
  have he := h.escapes
  rw [List.getElem?_map, Option.map_eq_some_iff] at he
  obtain ⟨c, hc, he⟩ := he
  exact ⟨c, hc, he, h.sound.coherent k c h.listens hc⟩

end Buffer

namespace Edit

/-- A classifier that serves answers with the state after scanning the text up to the position. -/
theorem answers_stateAt {b : Buffer} {k : Nat} {e : Bool} (h : b.Serves k e) (p : Int) :
    Answers b (stateAt k p)
      (.ok (Lexical.scan e {} (b.document.text.take (b.document.clamp p)))) := by
  obtain ⟨c, hc, rfl, hcoh⟩ := h.exists_coherent
  obtain ⟨d, hl, hcur, hp⟩ := perform_stateAt hc p
  obtain ⟨hlt, hle, hri⟩ := b.document.lineAt_spec p
  have hline : d.line = b.document.line := by
    funext i
    rw [Document.line, Document.line, hl]
  obtain ⟨c', hs, he, hcoh'⟩ := (hl ▸ hcoh).stateIn (d := d)
    (i := b.document.lineAt p) (by simpa [Document.lineCount, hl] using hlt)
    (b.document.clamp p - Text.extent (b.document.lines.take (b.document.lineAt p)))
  have hscan := b.document.scan_take_text c.escapes (b.document.lineAt p)
    (b.document.clamp p - Text.extent (b.document.lines.take (b.document.lineAt p))) hlt (by omega)
  rw [Nat.add_sub_cancel' hle] at hscan
  rw [hs] at hp
  refine ⟨_, ?_, (Buffer.reads_document b d hl hcur).trans
    (Buffer.reads_setClassifier _ hc (Classifier.grown_of_stateIn hs) fun _ => hcoh')⟩
  rw [hp, hscan, hl, hline]

section Keeps

variable {b₀ : Buffer}

lemma keeps_consult {look : Document → Document} (hl : ∀ d, (look d).lines = d.lines)
    (hc : ∀ d, (look d).cursor = d.cursor) : Keeps (Buffer.Reads b₀) (consult look) :=
  fun b hb => hb.trans (Buffer.reads_document b _ (hl _) (hc _))

lemma keeps_lineStart (i : Nat) : Keeps (Buffer.Reads b₀) (lineStart i) :=
  (keeps_consult (by simp) (by simp)).bind fun _ => .pure _

lemma keeps_lineAt (p : Int) : Keeps (Buffer.Reads b₀) (lineAt p) :=
  (keeps_consult (by simp) (by simp)).bind fun _ => .pure _

lemma keeps_marginEnd (i : Nat) : Keeps (Buffer.Reads b₀) (marginEnd i) :=
  (keeps_lineStart i).bind fun _ => Keeps.document.bind fun _ => .pure _

lemma keeps_lineEnd (i : Nat) : Keeps (Buffer.Reads b₀) (lineEnd i) :=
  (keeps_lineStart i).bind fun _ => Keeps.document.bind fun _ => .pure _

lemma keeps_cursorLine : Keeps (Buffer.Reads b₀) cursorLine :=
  Keeps.document.bind fun _ => keeps_lineAt _

lemma keeps_checkLine (n : Int) : Keeps (Buffer.Reads b₀) (checkLine n) :=
  Keeps.document.bind fun _ => .lift _

lemma keeps_onLine {α : Type} {holds : Buffer → Prop} {ask : Nat → Edit α} (n : Int)
    (h : ∀ i, Keeps holds (ask i)) : Keeps holds (onLine n ask) :=
  (Keeps.document.bind fun _ => .lift _).bind h

/-- Also a classifier that no longer follows the edits leaves those that do as they are. -/
lemma keeps_stateAt (k : Nat) (p : Int) : Keeps (Buffer.Reads b₀) (stateAt k p) := by
  intro b hb
  refine hb.trans ?_
  cases hk : b.classifiers[k]? with
  | none =>
    unfold stateAt
    simp only [perform_bind, perform_get, hk]
    exact .refl b
  | some c =>
    obtain ⟨d, hl, hcur, hp⟩ := perform_stateAt hk p
    have hd := Buffer.reads_document b d hl hcur
    have hlt : b.document.lineAt p < d.lineCount := by
      simpa [Document.lineCount, hl] using b.document.lineAt_lt p
    rw [hp]
    cases hs : c.stateIn d (b.document.lineAt p) (b.document.clamp p -
        Text.extent (b.document.lines.take (b.document.lineAt p))) with
    | error f => exact hd
    | ok answer =>
      obtain ⟨s, c'⟩ := answer
      refine hd.trans (Buffer.reads_setClassifier _ hk (Classifier.grown_of_stateIn hs) ?_)
      intro hc
      obtain ⟨c'', hs'', _, hc''⟩ := hc.stateIn hlt _
      rw [hs] at hs''
      cases hs''
      exact hc''

end Keeps
end Edit

namespace Lexer

/-- A classifier that serves tells the depths after scanning the text up to two positions apart. -/
theorem answers_depthDelta {b : Buffer} {k : Nat} {e : Bool} (h : b.Serves k e) (p q : Int) :
    Edit.Answers b ((classifier k).depthDelta p q)
      (.ok ((Lexical.scan e {} (b.document.text.take q.toNat)).depth -
        (Lexical.scan e {} (b.document.text.take p.toNat)).depth)) := by
  rw [← Document.take_clamp, ← Document.take_clamp]
  refine (Edit.answers_stateAt h q).bind fun b' hr => ?_
  have hbefore := Edit.answers_stateAt (h.evolves hr.toEvolves) p
  have htext : b'.document.text = b.document.text := congrArg Text.joinLines hr.lines
  rw [Document.clamp_congr hr.lines, htext] at hbefore
  exact hbefore.bind fun _ _ => .pure _

variable {b₀ : Buffer}

lemma keeps_ask {α : Type} (question : Nat → Document → α) :
    Edit.Keeps (Buffer.Reads b₀) (ask question) :=
  fun _ hb => hb.trans
    ⟨⟨rfl, rfl, fun h => ⟨h.below, h.coherent⟩⟩, rfl, rfl, rfl, rfl,
      fun _ c hc => ⟨c, hc, .refl c⟩⟩

lemma keeps_isLiteral (l : Lexer) (p : Int) : Edit.Keeps (Buffer.Reads b₀) (l.isLiteral p) := by
  cases l with
  | classifier k => exact (Edit.keeps_stateAt k p).bind fun _ => .pure _
  | oracle o => exact keeps_ask _

lemma keeps_depthDelta (l : Lexer) (start stop : Int) :
    Edit.Keeps (Buffer.Reads b₀) (l.depthDelta start stop) := by
  cases l with
  | classifier k =>
    exact (Edit.keeps_stateAt k stop).bind fun _ =>
      (Edit.keeps_stateAt k start).bind fun _ => .pure _
  | oracle o => exact keeps_ask _

/-- Work with a classifier of its own. -/
lemma perform_during_none {α : Type} (b : Buffer) (e : Bool) (work : Lexer → Edit α) :
    Edit.perform b (during none e work) =
      let done := Edit.perform (b.openClassifier e) (work (.classifier b.classifiers.length))
      (done.1, done.2.dropClassifier b.classifiers.length) := rfl

/-- Work with a lexer, be it given or opened for the work. Whatever relation of buffers is to be
kept, it must not be lost with the classifier that was opened. -/
lemma keeps_during_of {α : Type} {R : Buffer → Buffer → Prop} (hrefl : ∀ b, R b b)
    (htrans : ∀ {a b c}, R a b → R b c → R a c)
    (hhoused : ∀ {a b}, R a b → a.Housed → b.Housed)
    (hdrop : ∀ {b after e}, b.Housed → R (b.openClassifier e) after →
      R b (after.dropClassifier b.classifiers.length))
    (hb₀ : b₀.Housed) (given : Option Lexer) (e : Bool) {work : Lexer → Edit α}
    (h : ∀ b₁ : Buffer, b₁.Housed → ∀ l, Edit.Keeps (R b₁) (work l)) :
    Edit.Keeps (R b₀) (during given e work) := by
  cases given with
  | some l => exact h b₀ hb₀ l
  | none =>
    intro b hb
    have hopened := (hhoused hb hb₀).openClassifier e
    exact htrans hb (hdrop (hhoused hb hb₀) (h _ hopened _ _ (hrefl _)))

lemma keeps_during {α : Type} (hb₀ : b₀.Housed) (given : Option Lexer) (e : Bool)
    {work : Lexer → Edit α} (h : ∀ b₁ : Buffer, b₁.Housed → ∀ l, Edit.Keeps b₁.Reads (work l)) :
    Edit.Keeps b₀.Reads (during given e work) :=
  keeps_during_of Buffer.Reads.refl .trans (fun hr => hr.housed) .dropClassifier hb₀ given e h

/-- The same for work that edits. -/
lemma keeps_during_evolves {α : Type} (hb₀ : b₀.Housed) (given : Option Lexer) (e : Bool)
    {work : Lexer → Edit α}
    (h : ∀ b₁ : Buffer, b₁.Housed → ∀ l, Edit.Keeps b₁.Evolves (work l)) :
    Edit.Keeps b₀.Evolves (during given e work) :=
  keeps_during_of Buffer.Evolves.refl .trans (fun he => he.housed) .dropClassifier hb₀ given e h

end Lexer
end SqlMargin
