import SqlMargin.Proofs.Buffer.Perform
import SqlMargin.Proofs.Lexical.Coherence

/-! Sound buffers: every classifier that follows the edits agrees with the document. Reading a
buffer and editing it both keep it sound, and neither changes who follows the edits. -/
namespace SqlMargin.Buffer
open Lexical (Classifier)

/-- A listener that is a classifier is there, and the states it keeps agree with the document. -/
structure Sound (b : Buffer) : Prop where
  below : ∀ k, .classifier k ∈ b.listeners → k < b.classifiers.length
  coherent : ∀ k c, .classifier k ∈ b.listeners → b.classifiers[k]? = some c →
    c.Coherent b.document.lines

/-- The listeners that are classifiers are classifiers of the buffer. -/
def Housed (b : Buffer) : Prop := ∀ k, .classifier k ∈ b.listeners → k < b.classifiers.length

/-- What every piece of work on a buffer leaves as it is, opening and closing classifiers apart. -/
structure Evolves (b b' : Buffer) : Prop where
  listeners : b'.listeners = b.listeners
  escapes : b'.classifiers.map Classifier.escapes = b.classifiers.map Classifier.escapes
  sound : b.Sound → b'.Sound

/-- What a question leaves as it is: only states and line starts are noted on the way. -/
structure Reads (b b' : Buffer) : Prop extends Evolves b b' where
  lines : b'.document.lines = b.document.lines
  cursor : b'.document.cursor = b.document.cursor
  events : b'.events = b.events
  log : b'.log = b.log
  grown : ∀ (k : Nat) (c : Classifier), b.classifiers[k]? = some c →
    ∃ c', b'.classifiers[k]? = some c' ∧ c.Grown c'

lemma Evolves.refl (b : Buffer) : Evolves b b := ⟨rfl, rfl, id⟩

lemma Evolves.trans {a b c : Buffer} (h : Evolves a b) (h' : Evolves b c) : Evolves a c :=
  ⟨h'.listeners.trans h.listeners, h'.escapes.trans h.escapes, h'.sound ∘ h.sound⟩

lemma length_classifiers_of_escapes {b b' : Buffer}
    (hesc : b'.classifiers.map Classifier.escapes = b.classifiers.map Classifier.escapes) :
    b'.classifiers.length = b.classifiers.length := by simpa using congrArg List.length hesc

lemma Housed.of_eq {b b' : Buffer} (hb : b.Housed) (hlis : b'.listeners = b.listeners)
    (hesc : b'.classifiers.map Classifier.escapes = b.classifiers.map Classifier.escapes) :
    b'.Housed := by
  unfold Housed
  rw [hlis, length_classifiers_of_escapes hesc]
  exact hb

lemma Evolves.housed {b b' : Buffer} (h : Evolves b b') (hb : b.Housed) : b'.Housed :=
  hb.of_eq h.listeners h.escapes

lemma Reads.refl (b : Buffer) : Reads b b :=
  ⟨.refl b, rfl, rfl, rfl, rfl, fun _ c hc => ⟨c, hc, .refl c⟩⟩

lemma Reads.trans {a b c : Buffer} (h : Reads a b) (h' : Reads b c) : Reads a c where
  toEvolves := h.toEvolves.trans h'.toEvolves
  lines := h'.lines.trans h.lines
  cursor := h'.cursor.trans h.cursor
  events := h'.events.trans h.events
  log := h'.log.trans h.log
  grown k c₁ h₁ := by
    obtain ⟨c₂, h₂, hg⟩ := h.grown k c₁ h₁
    obtain ⟨c₃, h₃, hg'⟩ := h'.grown k c₂ h₂
    exact ⟨c₃, h₃, hg.trans hg'⟩

lemma sound_ofText (s : List Char) (c : Int) : (ofText s c).Sound := by
  constructor <;> simp [ofText]

/-- The table of line starts has no part in soundness. -/
lemma Sound.document {b : Buffer} (h : b.Sound) {d : Document}
    (hd : d.lines = b.document.lines) : Sound { b with document := d } := by
  constructor
  · exact h.below
  · intro k c hk hc
    rw [hd]
    exact h.coherent k c hk hc

lemma reads_document (b : Buffer) (d : Document) (hl : d.lines = b.document.lines)
    (hc : d.cursor = b.document.cursor) : Reads b { b with document := d } :=
  ⟨⟨rfl, rfl, fun h => h.document hl⟩, hl, hc, rfl, rfl, fun _ c hc => ⟨c, hc, .refl c⟩⟩

/-- A classifier that goes on agreeing with the document may take the place of another one. -/
lemma reads_setClassifier (b : Buffer) {k : Nat} {c c' : Classifier}
    (hk : b.classifiers[k]? = some c) (hg : c.Grown c')
    (hc : c.Coherent b.document.lines → c'.Coherent b.document.lines) :
    Reads b { b with classifiers := b.classifiers.set k c' } := by
  obtain ⟨hlt, hck⟩ := List.getElem?_eq_some_iff.1 hk
  refine ⟨⟨rfl, ?_, ?_⟩, rfl, rfl, rfl, rfl, ?_⟩
  · have hm : k < (b.classifiers.map Classifier.escapes).length := by simpa using hlt
    have hself := List.set_getElem_self hm
    rwa [List.getElem_map, hck, ← hg.escapes, ← List.map_set] at hself
  · intro h
    constructor
    · intro j hj
      simpa using h.below j hj
    · intro j a hj ha
      by_cases hjk : k = j
      · subst hjk
        have hac : c' = a := by simpa [hlt] using ha
        subst hac
        exact hc (h.coherent k c hj hk)
      · rw [List.getElem?_set_ne hjk] at ha
        exact h.coherent j a hj ha
  · intro j a ha
    by_cases hjk : k = j
    · subst hjk
      cases hk.symm.trans ha
      exact ⟨c', List.getElem?_set_self hlt, hg⟩
    · exact ⟨a, (List.getElem?_set_ne hjk).trans ha, .refl a⟩

/-! Edits. Every listener is told, so those that are classifiers forget what an edit made old. -/

@[simp] lemma document_tellAll (b : Buffer) (i : Nat) (ls : List Listener) :
    (ls.foldl (fun b l => b.tell i l) b).document = b.document := by
  induction ls generalizing b with
  | nil => rfl
  | cons l ls ih =>
    rw [List.foldl_cons, ih]
    cases l <;> rfl

@[simp] lemma listeners_tellAll (b : Buffer) (i : Nat) (ls : List Listener) :
    (ls.foldl (fun b l => b.tell i l) b).listeners = b.listeners := by
  induction ls generalizing b with
  | nil => rfl
  | cons l ls ih =>
    rw [List.foldl_cons, ih]
    cases l <;> rfl

lemma getElem?_classifiers_tellAll (b : Buffer) (i : Nat) (ls : List Listener) (k : Nat) :
    (ls.foldl (fun b l => b.tell i l) b).classifiers[k]? =
      if .classifier k ∈ ls then b.classifiers[k]?.map (·.flush i) else b.classifiers[k]? := by
  induction ls generalizing b with
  | nil => simp
  | cons l ls ih =>
    rw [List.foldl_cons, ih]
    cases l with
    | observer name => simp [tell]
    | classifier j =>
      by_cases hjk : j = k
      · subst hjk
        simp only [tell, List.getElem?_modify_eq, List.mem_cons_self, if_true]
        split
        · cases b.classifiers[j]? with
          | none => rfl
          | some c => exact congrArg some (c.flush_flush i)
        · rfl
      · simp [tell, hjk, Ne.symm hjk]

@[simp] lemma document_changed (b : Buffer) (d : Document) (i : Nat) :
    (b.changed d i).document = d := document_tellAll ..

@[simp] lemma listeners_changed (b : Buffer) (d : Document) (i : Nat) :
    (b.changed d i).listeners = b.listeners := listeners_tellAll ..

/-- Classifiers that are told forget what comes after line `i`. That is enough for those that follow
the edits if the lines above `i` stay, and those that are not told must find all lines as before. -/
lemma evolves_of_told {b b' : Buffer} (i : Nat) (told : Nat → Prop) [DecidablePred told]
    (hlis : b'.listeners = b.listeners)
    (hget : ∀ k, b'.classifiers[k]? =
      if told k then b.classifiers[k]?.map (·.flush i) else b.classifiers[k]?)
    (habove : b.document.lines.take i = b'.document.lines.take i)
    (hrest : ∀ k, .classifier k ∈ b.listeners → ¬ told k →
      b'.document.lines = b.document.lines) : Evolves b b' := by
  have hesc : b'.classifiers.map Classifier.escapes = b.classifiers.map Classifier.escapes := by
    apply List.ext_getElem?
    intro k
    rw [List.getElem?_map, List.getElem?_map, hget]
    split
    · rw [Option.map_map]
      rfl
    · rfl
  refine ⟨hlis, hesc, fun h => ⟨Housed.of_eq h.below hlis hesc, fun k c hk hc => ?_⟩⟩
  rw [hlis] at hk
  rw [hget] at hc
  split at hc
  · obtain ⟨c₀, hc₀, rfl⟩ := Option.map_eq_some_iff.1 hc
    exact (h.coherent k c₀ hk hc₀).flush i habove
  · next ht =>
    rw [hrest k hk ht]
    exact h.coherent k c hk hc

/-- An edit that leaves the lines above line `i` as they are keeps a buffer sound. -/
theorem evolves_changed (b : Buffer) (d : Document) (i : Nat)
    (hl : b.document.lines.take i = d.lines.take i) : Evolves b (b.changed d i) := by
  apply evolves_of_told i (fun k => .classifier k ∈ b.listeners) (listeners_changed ..)
  · exact fun k => getElem?_classifiers_tellAll _ i b.listeners k
  · rwa [document_changed]
  · exact fun k hk ht => absurd hk ht

/-! Classifiers for the time of some work. -/

lemma Housed.openClassifier {b : Buffer} (h : b.Housed) (e : Bool) :
    (b.openClassifier e).Housed := by
  intro k hk
  rcases List.mem_append.1 hk with hk | hk
  · have hlt := h k hk
    simp only [Buffer.openClassifier, List.length_append]
    omega
  · have hkl : k = b.classifiers.length := by simpa using hk
    simp [Buffer.openClassifier, hkl]

lemma Sound.openClassifier {b : Buffer} (h : b.Sound) (e : Bool) : (b.openClassifier e).Sound := by
  constructor
  · exact Housed.openClassifier h.below e
  · intro k c hk hc
    rcases List.mem_append.1 hk with hk | hk
    · simp only [Buffer.openClassifier, List.getElem?_append_left (h.below k hk)] at hc
      exact h.coherent k c hk hc
    · have hkl : k = b.classifiers.length := by simpa using hk
      subst hkl
      have hcn : Classifier.new e = c := by simpa [Buffer.openClassifier] using hc
      subst hcn
      exact Classifier.coherent_new e _

/-- After the work, the classifier opened for it is gone and all else is as the work left it. -/
theorem Evolves.dropClassifier {b after : Buffer} {e : Bool} (hb : b.Housed)
    (h : Evolves (b.openClassifier e) after) :
    Evolves b (after.dropClassifier b.classifiers.length) := by
  have hnew : Listener.classifier b.classifiers.length ∉ b.listeners := fun hm =>
    Nat.lt_irrefl _ (hb _ hm)
  have hlis : (after.dropClassifier b.classifiers.length).listeners = b.listeners := by
    simp only [Buffer.dropClassifier, h.listeners, Buffer.openClassifier]
    rw [List.erase_append_right _ hnew]
    simp
  have hesc : (after.dropClassifier b.classifiers.length).classifiers.map Classifier.escapes =
      b.classifiers.map Classifier.escapes := by
    simp only [Buffer.dropClassifier, List.map_take, h.escapes, Buffer.openClassifier]
    simp
  refine ⟨hlis, hesc, fun hs => ⟨hb.of_eq hlis hesc, fun k c hk hc => ?_⟩⟩
  rw [hlis] at hk
  simp only [Buffer.dropClassifier, List.getElem?_take, if_pos (hb k hk)] at hc
  refine (h.sound (hs.openClassifier e)).coherent k c ?_ hc
  rw [h.listeners]
  exact List.mem_append_left _ hk

theorem Reads.dropClassifier {b after : Buffer} {e : Bool} (hb : b.Housed)
    (h : Reads (b.openClassifier e) after) :
    Reads b (after.dropClassifier b.classifiers.length) := by
  refine ⟨h.toEvolves.dropClassifier hb, h.lines, h.cursor, h.events, h.log, fun k c hc => ?_⟩
  obtain ⟨hlt, -⟩ := List.getElem?_eq_some_iff.1 hc
  obtain ⟨c', hc', hg⟩ := h.grown k c ((List.getElem?_append_left hlt).trans hc)
  refine ⟨c', ?_, hg⟩
  simpa only [Buffer.dropClassifier, List.getElem?_take, if_pos hlt] using hc'

end SqlMargin.Buffer
