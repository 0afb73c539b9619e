import SqlMargin.Proofs.Buffer.History

/-! Rosters: who follows the edits of a buffer, in order, and how many classifiers it has. A roster
is changed by the calls that add a listener or take one away, and by no others: the classifiers that
indenting opens for itself are gone when it ends, also when it fails. -/
namespace SqlMargin.Buffer
open Edit (perform)

/-- How many classifiers a buffer has, and the listeners in the order of registration. -/
structure Roster where
  opened : Nat
  listeners : List Listener

/-- What a call makes of a roster. Of a listener that is there twice the first registration goes,
and one that is not there cannot be taken away. -/
def Roster.note (r : Roster) : Call → Roster
  | .addObserver name => { r with listeners := r.listeners ++ [.observer name] }
  | .removeObserver name => { r with listeners := r.listeners.erase (.observer name) }
  | .openClassifier _ => ⟨r.opened + 1, r.listeners ++ [.classifier r.opened]⟩
  | .closeClassifier k => { r with listeners := r.listeners.erase (.classifier k) }
  | _ => r

/-- The roster of a buffer as it is. -/
def roster (b : Buffer) : Roster := ⟨b.classifiers.length, b.listeners⟩

lemma listeners_roster (b : Buffer) : b.roster.listeners = b.listeners := rfl

variable {b : Buffer}

lemma Evolves.roster {b' : Buffer} (h : b.Evolves b') : b'.roster = b.roster := by
  rw [Buffer.roster, length_classifiers_of_escapes h.escapes, h.listeners]
  rfl

lemma roster_removeListener (b : Buffer) (l : Listener) :
    (perform b (Edit.removeListener l)).2.roster =
      { b.roster with listeners := b.listeners.erase l } := by
  unfold Edit.removeListener
  simp only [Edit.perform_bind, Edit.perform_get]
  split
  · rfl
  · next h =>
    rw [List.erase_of_not_mem h]
    rfl

/-- One call, whether it succeeds or fails. -/
theorem roster_call [Memory] (hb : b.Housed) (c : Call) :
    (perform b c.work).2.roster = b.roster.note c := by
  cases c with
  | addObserver name => rfl
  | removeObserver name => exact roster_removeListener b _
  | openClassifier e =>
    change Buffer.roster (b.openClassifier e) = _
    simp [Buffer.roster, Buffer.openClassifier, Roster.note]
  | closeClassifier k => exact roster_removeListener b _
  | _ => exact (evolves_call hb _ rfl).roster

/-- A buffer made from a text is housed, as it has no listeners; and no call leaves a listener
behind whose classifier is gone. -/
lemma housed_ofText (s : List Char) (cursor : Int) : (ofText s cursor).Housed := nofun

lemma Housed.call [Memory] (hb : b.Housed) (c : Call) : (perform b c.work).2.Housed := by
  have hnoted : ∀ k, .classifier k ∈ (b.roster.note c).listeners → k < (b.roster.note c).opened := by
    intro k hk
    cases c with
    | addObserver name => exact hb k (by simpa [Roster.note, roster] using hk)
    | removeObserver name => exact hb k (List.mem_of_mem_erase hk)
    | openClassifier e =>
      rcases List.mem_append.1 hk with hk | hk
      · exact Nat.lt_succ_of_lt (hb k hk)
      · cases List.mem_singleton.1 hk
        exact Nat.lt_succ_self _
    | closeClassifier j => exact hb k (List.mem_of_mem_erase hk)
    | _ => exact hb k hk
  rw [← roster_call hb c] at hnoted
  exact hnoted

lemma Housed.after [Memory] (hb : b.Housed) (calls : List Call) : (b.after calls).Housed := by
  induction calls generalizing b with
  | nil => exact hb
  | cons c calls ih => exact ih (hb.call c)

theorem roster_after [Memory] (hb : b.Housed) (calls : List Call) :
    (b.after calls).roster = calls.foldl Roster.note b.roster := by
  induction calls generalizing b with
  | nil => rfl
  | cons c calls ih =>
    rw [List.foldl_cons, ← roster_call hb c]
    exact ih (hb.call c)

/-- Working out a level reads and does nothing else, with whatever settings and lexer, be it that it
comes to an answer or to a fault: the document and its listeners stay, no listener is told of an
edit, and no classifier forgets what it knows. And after any calls, those that fail included, the
listeners are those that calls added and none took away, in the order in which they were added. -/
theorem listeners_as_registered [Memory] (hb : b.Housed) :
    (∀ (s : Settings) (lexer : Option Lexer) (previous : Option (Previous Columns)) (p : Int),
      let b' := (perform b (SqlMargin.levelAt s.reading lexer previous p)).2
      b'.document.text = b.document.text ∧ b'.document.length = b.document.length ∧
        b'.document.cursor = b.document.cursor ∧ b'.listeners = b.listeners ∧
        b'.events = b.events ∧
        ∀ (k : Nat) (c : Lexical.Classifier), b.classifiers[k]? = some c →
          ∃ c', b'.classifiers[k]? = some c' ∧ c.Grown c') ∧
    ∀ calls : List Call, (b.after calls).roster = calls.foldl Roster.note b.roster := by
  refine ⟨fun s lexer previous p => ?_, roster_after hb⟩
  intro b'
  have hr : b.Reads b' := keeps_levelAt hb s.reading lexer previous p b (.refl b)
  have htext : b'.document.text = b.document.text := congrArg Text.joinLines hr.lines
  have hlength : b'.document.length = b.document.length := by
    rw [← Document.length_text, htext, Document.length_text]
  exact ⟨htext, hlength, hr.cursor, hr.listeners, hr.events, hr.grown⟩

section Ample

attribute [local instance] Memory.ample

/-- The same observer follows twice, with a classifier between. A level fails at a tab when the
classifier opened for it follows as well; calls that fail and calls that succeed come after it. -/
theorem listeners_as_registered_failing :
    let b := (ofText "\tx\ny".toList 0).after
      [.addObserver "a", .openClassifier true, .addObserver "a"]
    let stopless : Settings := { tabWidth := .int 0 }
    b.Housed ∧
    (perform b (SqlMargin.levelAt stopless.reading none none 3)).1 = .error .moduloByZero ∧
    (perform b (SqlMargin.levelAt stopless.reading none none 3)).2.listeners =
      [.observer "a", .classifier 0, .observer "a"] ∧
    (b.after [.indentLine stopless none none none, .levelAt stopless none none 3,
      .indentBuffer {} none, .openClassifier false, .removeObserver "a", .closeClassifier 0,
      .closeClassifier 0]).listeners = [.observer "a", .classifier 1] := by
  intro b stopless
  have hb : b.Housed := (housed_ofText _ _).after _
  have hstart : b.roster = ⟨1, [.observer "a", .classifier 0, .observer "a"]⟩ := by
    rw [roster_after (housed_ofText _ _)]
    rfl
  obtain ⟨hlevel, hroster⟩ := listeners_as_registered hb
  obtain ⟨-, -, -, hlisteners, -⟩ := hlevel stopless none none 3
  refine ⟨hb, by decide +kernel, ?_, ?_⟩
  -- Both go by the roster: to compare the buffers themselves would run the calls.
  · rw [hlisteners, ← listeners_roster, hstart]
  · rw [← listeners_roster, hroster, hstart]
    rfl

end Ample
end SqlMargin.Buffer
