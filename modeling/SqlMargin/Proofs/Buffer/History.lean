import SqlMargin.Proofs.Indent.Steadiness
import SqlMargin.Proofs.Lexical.Depth

/-! Histories of a buffer: calls of any kind in any order, those that fail included. Every
classifier that was opened and not closed since answers as if it had scanned the present text from
its start, whatever it and the document had noted before. -/
namespace SqlMargin
open Lexical (Classifier)
open Edit (Keeps perform)

/-- A call to a document: an edit, a new place for the cursor, or a question. -/
inductive Document.Call where
  | insert (p : Int) (s : List Char)
  | replaceMargin (n : Int) (s : List Char)
  | moveCursor (p : Int)
  | lineStart (n : Int)
  | lineEnd (n : Int)
  | marginEnd (n : Int)
  /-- What a line holds: its text, margin and columns. -/
  | line (n : Int)
  | lineAt (p : Int)
  | cursorLine

def Document.Call.work : Document.Call → Edit Unit
  | .insert p s => Edit.insert p s
  | .replaceMargin n s => Edit.replaceMargin n s
  | .moveCursor p => Edit.moveCursor p
  | .lineStart n => do let _ ← Edit.onLine n Edit.lineStart
  | .lineEnd n => do let _ ← Edit.onLine n Edit.lineEnd
  | .marginEnd n => do let _ ← Edit.onLine n Edit.marginEnd
  | .line n => do let _ ← Edit.onLine n fun i => return (← Edit.document).line i
  | .lineAt p => do let _ ← Edit.lineAt p
  | .cursorLine => do let _ ← Edit.cursorLine

/-- A call to a buffer. Classifiers are flushed from a line on, counted from zero. -/
inductive Buffer.Call where
  | document (c : Document.Call)
  | addObserver (name : String)
  | removeObserver (name : String)
  | openClassifier (escapes : Bool)
  | closeClassifier (k : Nat)
  | flushClassifier (k line : Nat)
  | stateAt (k : Nat) (p : Int)
  | isLiteral (k : Nat) (p : Int)
  | depthDelta (k : Nat) (start stop : Int)
  | levelAt (s : Settings) (lexer : Option Lexer) (previous : Option (Previous Columns)) (p : Int)
  | indentLine (s : Settings) (lexer : Option Lexer) (previous : Option (Previous Int))
      (line : Option Int)
  | indentBuffer (s : Settings) (lexer : Option Lexer)

namespace Buffer

def Call.work [Memory] : Call → Edit Unit
  | .document c => c.work
  | .addObserver name => Edit.addListener (.observer name)
  | .removeObserver name => Edit.removeListener (.observer name)
  | .openClassifier e => do let _ ← Edit.openClassifier e
  | .closeClassifier k => Edit.closeClassifier k
  | .flushClassifier k line => Edit.flushClassifier k line
  | .stateAt k p => do let _ ← Edit.stateAt k p
  | .isLiteral k p => do let _ ← (Lexer.classifier k).isLiteral p
  | .depthDelta k start stop => do let _ ← (Lexer.classifier k).depthDelta start stop
  | .levelAt s lexer previous p => do let _ ← SqlMargin.levelAt s.reading lexer previous p
  | .indentLine s lexer previous line => do let _ ← SqlMargin.indentLine s lexer previous line
  | .indentBuffer s lexer => do let _ ← SqlMargin.indentBuffer s lexer

/-- The buffer after some calls. A call that fails leaves what it had done. -/
def after [Memory] (b : Buffer) (calls : List Call) : Buffer :=
  calls.foldl (fun b c => (perform b c.work).2) b

/-- Classifier `k` was opened by one of some calls, with or without escapes, and none of the later
ones closes it. -/
def Opened [Memory] (b : Buffer) (calls : List Call) (k : Nat) (e : Bool) : Prop :=
  ∃ earlier later, calls = earlier ++ .openClassifier e :: later ∧
    k = (b.after earlier).classifiers.length ∧ .closeClassifier k ∉ later

/-- A lexer for some work: none, so that the work opens a classifier of its own, or a classifier
that the calls opened and left open. -/
def Lends [Memory] (b : Buffer) (calls : List Call) (e : Bool) (lexer : Option Lexer) : Prop :=
  ∀ l, lexer = some l → ∃ k, l = .classifier k ∧ b.Opened calls k e

/-- What a call leaves of the classifiers in service. -/
def Carries (b b' : Buffer) (c : Call) : Prop :=
  b'.Sound ∧ ∀ k e, c ≠ .closeClassifier k → b.Serves k e → b'.Serves k e

lemma Evolves.carries {b b' : Buffer} (hs : b.Sound) (h : b.Evolves b') (c : Call) :
    b.Carries b' c :=
  ⟨h.sound hs, fun _ _ _ hk => hk.evolves h⟩

lemma evolves_documentCall {b : Buffer} (hb : b.Housed) (c : Document.Call) :
    b.Evolves (perform b c.work).2 := by
  have reads : ∀ {α : Type} {work : Edit α}, (∀ b₁ : Buffer, b₁.Housed → Keeps b₁.Reads work) →
      Keeps b.Evolves (do let _ ← work) := fun h => (Keeps.evolves hb h).discard
  suffices h : Keeps b.Evolves c.work from h b (.refl b)
  cases c with
  | insert p s => exact .modify fun b' he => he.trans (evolves_insert b' p s)
  | replaceMargin n s =>
    change Keeps b.Evolves (Edit.replaceMargin n s)
    unfold Edit.replaceMargin
    cases Margin.ofText? s with
    | none => exact .throw _
    | some m =>
      exact Edit.keeps_onLine n fun i => .modify fun b' he => he.trans (evolves_replaceMargin b' i m)
  | moveCursor p => exact .modify fun b' he => he.trans (evolves_moveCursor b' p)
  | lineStart n => exact reads fun _ _ => Edit.keeps_onLine n Edit.keeps_lineStart
  | lineEnd n => exact reads fun _ _ => Edit.keeps_onLine n Edit.keeps_lineEnd
  | marginEnd n => exact reads fun _ _ => Edit.keeps_onLine n Edit.keeps_marginEnd
  | line n =>
    exact reads fun _ _ => Edit.keeps_onLine n fun _ => Keeps.document.bind fun _ => .pure _
  | lineAt p => exact reads fun _ _ => Edit.keeps_lineAt p
  | cursorLine => exact reads fun _ _ => Edit.keeps_cursorLine

/-- Fewer or more listeners, as long as none is a classifier that is not there. -/
lemma Sound.listeners {b : Buffer} (hs : b.Sound) (ls : List Listener)
    (h : ∀ k, .classifier k ∈ ls → .classifier k ∈ b.listeners) :
    Sound { b with listeners := ls } :=
  ⟨fun k hk => hs.below k (h k hk), fun k c hk => hs.coherent k c (h k hk)⟩

lemma carries_removeListener {b : Buffer} (hs : b.Sound) (l : Listener) (c : Call)
    (hc : ∀ k, l = .classifier k → c = .closeClassifier k) :
    b.Carries (perform b (Edit.removeListener l)).2 c := by
  unfold Edit.removeListener
  simp only [Edit.perform_bind, Edit.perform_get]
  split
  · refine ⟨hs.listeners _ fun k hk => List.mem_of_mem_erase hk, fun k e hk h => ?_⟩
    have hne : Listener.classifier k ≠ l := fun hl => hk (hc k hl.symm)
    exact ⟨hs.listeners _ fun k hk => List.mem_of_mem_erase hk,
      (List.mem_erase_of_ne hne).2 h.listens, h.escapes⟩
  · exact (Evolves.refl b).carries hs c

lemma evolves_flushClassifier (b : Buffer) (k line : Nat) :
    b.Evolves (perform b (Edit.flushClassifier k line)).2 := by
  change b.Evolves { b with classifiers := b.classifiers.modify k (·.flush line) }
  refine evolves_of_told line (fun j => k = j) rfl (fun j => ?_) rfl fun _ _ _ => rfl
  rw [List.getElem?_modify]
  split <;> simp

/-- Whether a call adds a listener or takes one away. -/
def Call.registers : Call → Bool
  | .addObserver _ | .removeObserver _ | .openClassifier _ | .closeClassifier _ => true
  | _ => false

section Memory

variable [Memory]

/-- No other call changes who follows the edits, whether it succeeds or fails. -/
theorem evolves_call {b : Buffer} (hb : b.Housed) (c : Call) (hc : c.registers = false) :
    b.Evolves (perform b c.work).2 := by
  have reads : ∀ {α : Type} {work : Edit α}, Keeps b.Reads work →
      b.Evolves (perform b (do let _ ← work)).2 := fun h => (h.discard b (.refl b)).toEvolves
  have evolves : ∀ {α : Type} {work : Edit α}, Keeps b.Evolves work →
      b.Evolves (perform b (do let _ ← work)).2 := fun h => h.discard b (.refl b)
  cases c with
  | document c => exact evolves_documentCall hb c
  | flushClassifier k line => exact evolves_flushClassifier b k line
  | stateAt k p => exact reads (Edit.keeps_stateAt k p)
  | isLiteral k p => exact reads (Lexer.keeps_isLiteral _ p)
  | depthDelta k start stop => exact reads (Lexer.keeps_depthDelta _ start stop)
  | levelAt s lexer previous p => exact reads (keeps_levelAt hb _ lexer previous p)
  | indentLine s lexer previous line => exact evolves (keeps_indentLine hb s lexer previous line)
  | indentBuffer s lexer => exact evolves (keeps_indentBuffer hb s lexer)
  | addObserver | removeObserver | openClassifier | closeClassifier => cases hc

/-- One call, whatever it is and whether it succeeds or fails. -/
theorem carries_call {b : Buffer} (hs : b.Sound) (c : Call) :
    b.Carries (perform b c.work).2 c := by
  cases c with
  | addObserver name =>
    have hsound : Sound { b with listeners := b.listeners ++ [.observer name] } :=
      hs.listeners _ fun k hk => by simpa using hk
    exact ⟨hsound, fun k e _ h => ⟨hsound, List.mem_append_left _ h.listens, h.escapes⟩⟩
  | removeObserver name => exact carries_removeListener hs _ _ fun k hk => nomatch hk
  | openClassifier e => exact ⟨hs.openClassifier e, fun k e' _ h => h.openClassifier e⟩
  | closeClassifier k =>
    refine carries_removeListener hs _ _ fun j hj => ?_
    cases hj
    rfl
  | _ => exact (evolves_call hs.below _ rfl).carries hs _

lemma after_append (b : Buffer) (calls later : List Call) :
    b.after (calls ++ later) = (b.after calls).after later := List.foldl_append

/-- A classifier in service stays in service until it is closed. -/
theorem carries_after {b : Buffer} (hs : b.Sound) (calls : List Call) :
    (b.after calls).Sound ∧
      ∀ k e, .closeClassifier k ∉ calls → b.Serves k e → (b.after calls).Serves k e := by
  -- Soundness is what every call needs and leaves, so it goes along with the classifiers.
  induction calls generalizing b with
  | nil => exact ⟨hs, fun _ _ _ h => h⟩
  | cons c calls ih =>
    obtain ⟨hsound, hserves⟩ := carries_call hs c
    obtain ⟨hafter, hcalls⟩ := ih hsound
    refine ⟨hafter, fun k e hk h => ?_⟩
    rw [List.mem_cons, not_or] at hk
    exact hcalls k e hk.2 (hserves k e (Ne.symm hk.1) h)

theorem serves_of_opened {b : Buffer} (hs : b.Sound) {calls : List Call} {k : Nat} {e : Bool}
    (h : b.Opened calls k e) : (b.after calls).Serves k e := by
  obtain ⟨earlier, later, rfl, rfl, hlater⟩ := h
  have hearlier := (carries_after hs earlier).1
  rw [after_append]
  exact (carries_after (hearlier.openClassifier e) later).2 _ e hlater
    (hearlier.serves_openClassifier e)

/-- Whatever was done to a buffer, a classifier opened on the way and not closed since answers for
every position with what scanning the text up to there gives. -/
theorem stateAt_of_opened (s : List Char) (cursor : Int) (calls : List Call) (k : Nat) (e : Bool)
    (h : (ofText s cursor).Opened calls k e) (p : Int) :
    let b := (ofText s cursor).after calls
    (perform b (Edit.stateAt k p)).1 =
      .ok (Lexical.scan e {} (b.document.text.take (min p.toNat b.document.text.length))) := by
  intro b
  obtain ⟨b', hb, _⟩ := Edit.answers_stateAt (serves_of_opened (sound_ofText s cursor) h) p
  rw [hb, Document.length_text]
  rfl

end Memory

section Ample

attribute [local instance] Memory.ample

/-- The classifier had noted both lines when a parenthesis came in before them; a call to a line
that is not there changes nothing. -/
theorem stateAt_after_insert :
    (perform ((ofText "a\n\x27b".toList 0).after
      [.openClassifier true, .stateAt 0 4, .document (.insert 0 ['(']),
        .document (.replaceMargin 7 [])]) (Edit.stateAt 0 5)).1 =
      .ok { context := .string, quote := some ['\x27'], depth := 1 } :=
  (stateAt_of_opened "a\n\x27b".toList 0 _ 0 true ⟨[], _, rfl, rfl, by simp⟩ 5).trans
    (congrArg Except.ok (by decide))

end Ample

/-- What the depth gains from one position of a text to another is the number of opening parentheses
there that stand in code, less that of closing ones; and so says every classifier that was opened
and not closed since, whatever was done to its buffer. -/
theorem depthDelta_counts_parentheses [Memory] (e : Bool) {start stop : Nat} (hle : start ≤ stop) :
    (∀ t : List Char,
      (Lexical.scan e {} (t.take stop)).depth - (Lexical.scan e {} (t.take start)).depth =
        Lexical.countInCode e t '(' start stop - Lexical.countInCode e t ')' start stop) ∧
    ∀ (s : List Char) (cursor : Int) (calls : List Call) (k : Nat),
      (ofText s cursor).Opened calls k e →
        let b := (ofText s cursor).after calls
        (perform b ((Lexer.classifier k).depthDelta start stop)).1 =
          .ok (Lexical.countInCode e b.document.text '(' start stop -
            Lexical.countInCode e b.document.text ')' start stop) := by
  have hgain : ∀ t : List Char,
      (Lexical.scan e {} (t.take stop)).depth - (Lexical.scan e {} (t.take start)).depth =
        Lexical.countInCode e t '(' start stop - Lexical.countInCode e t ')' start stop := by
    intro t
    have hrun := Lexical.depth_scan_take e t hle
    omega
  refine ⟨hgain, fun s cursor calls k h => ?_⟩
  intro b
  obtain ⟨b', hb, _⟩ :=
    Lexer.answers_depthDelta (serves_of_opened (sound_ofText s cursor) h) start stop
  rw [hb, ← hgain]
  rfl

section Ample

attribute [local instance] Memory.ample

/-- A text with a parenthesis that a backslash escapes, one in a comment that ends as another could
start, and one after it; and a classifier that has seen the text without it. -/
theorem depthDelta_counts_parentheses_pairs :
    0 ≤ 13 ∧
    (Lexical.scan true {} ("\x27\\(\x27/*)*/(()(".toList.take 13)).depth -
        (Lexical.scan true {} ("\x27\\(\x27/*)*/(()(".toList.take 0)).depth = 2 ∧
    (perform ((ofText "\x27\\(\x27/*)*/(()".toList 0).after
      [.openClassifier true, .depthDelta 0 0 12, .document (.insert 12 ['('])])
        ((Lexer.classifier 0).depthDelta 0 13)).1 = .ok 2 := by
  have hcount : Lexical.countInCode true "\x27\\(\x27/*)*/(()(".toList '(' 0 13 = 3 ∧
      Lexical.countInCode true "\x27\\(\x27/*)*/(()(".toList ')' 0 13 = 1 := by decide
  have hgain := (depthDelta_counts_parentheses true (Nat.zero_le 13)).1
    "\x27\\(\x27/*)*/(()(".toList
  rw [hcount.1, hcount.2] at hgain
  refine ⟨Nat.zero_le 13, hgain, ?_⟩
  exact ((depthDelta_counts_parentheses true (Nat.zero_le 13)).2 "\x27\\(\x27/*)*/(()".toList 0 _ 0
    ⟨[], _, rfl, rfl, by simp⟩).trans (congrArg Except.ok (by decide))

end Ample
end Buffer
end SqlMargin
