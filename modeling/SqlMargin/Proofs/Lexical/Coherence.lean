import SqlMargin.Proofs.Lexical.LineStates

/-! Classifiers that agree with a text: the states they keep are those at the first line starts.
Working out more states keeps the agreement, and so does an edit, if the states after the line it
touches first are forgotten. -/
namespace SqlMargin.Lexical.Classifier

/-- The kept states are those at the starts of the first lines, one at least. -/
def Coherent (c : Classifier) (ls : List (List Char)) : Prop :=
  c.states ≠ [] ∧ c.states <+: {} :: endStates c.escapes {} ls

lemma coherent_new (e : Bool) (ls : List (List Char)) : (new e).Coherent ls := by
  refine ⟨by simp [new], ?_⟩
  exact List.cons_prefix_cons.2 ⟨rfl, List.nil_prefix⟩

lemma endStates_append (e : Bool) (s : State) (ls ms : List (List Char)) :
    endStates e s (ls ++ ms) = endStates e s ls ++ endStates e (afterLines e s ls) ms := by
  induction ls generalizing s with
  | nil => rfl
  | cons l ls ih =>
    simp only [List.cons_append, endStates, ih]
    rfl

@[simp] lemma length_endStates (e : Bool) (s : State) (ls : List (List Char)) :
    (endStates e s ls).length = ls.length := by
  induction ls generalizing s with
  | nil => rfl
  | cons l ls ih => simp [endStates, ih]

lemma take_endStates (e : Bool) (s : State) (ls : List (List Char)) (i : Nat) :
    (endStates e s ls).take i = endStates e s (ls.take i) := by
  induction ls generalizing s i with
  | nil => simp [endStates]
  | cons l ls ih =>
    cases i with
    | zero => rfl
    | succ i => simp [endStates, ih]

/-- The states of some first lines, with those of lines right after them. -/
lemma append_endStates_isPrefix (e : Bool) (s : State) (ls : List (List Char)) (n m : Nat) :
    s :: endStates e s (ls.take n) ++
        endStates e (afterLines e s (ls.take n)) ((ls.drop n).take m) <+: s :: endStates e s ls := by
  have hl : endStates e s ls = endStates e s (ls.take n) ++
      endStates e (afterLines e s (ls.take n)) (ls.drop n) := by
    rw [← endStates_append, List.take_append_drop]
  rw [hl, List.cons_append, List.cons_prefix_cons, List.prefix_append_right_inj, ← take_endStates]
  exact ⟨rfl, List.take_prefix ..⟩

lemma states_flush (c : Classifier) (i : Nat) : (c.flush i).states = c.states.take (i + 1) := by
  unfold flush
  rw [if_pos (by omega)]
  rfl

@[simp] lemma escapes_flush (c : Classifier) (n : Int) : (c.flush n).escapes = c.escapes := rfl

lemma flush_flush (c : Classifier) (i : Nat) : (c.flush i).flush i = c.flush i := by
  have h := states_flush (c.flush i) i
  rw [states_flush c i, List.take_take, Nat.min_self, ← states_flush] at h
  exact congrArg (Classifier.mk c.escapes) h

/-- A classifier reads as before and has forgotten none of its states. -/
structure Grown (c c' : Classifier) : Prop where
  escapes : c'.escapes = c.escapes
  states : c.states <+: c'.states

lemma Grown.refl (c : Classifier) : c.Grown c := ⟨rfl, List.prefix_rfl⟩

lemma Grown.trans {a b c : Classifier} (h : a.Grown b) (h' : b.Grown c) : a.Grown c :=
  ⟨h'.escapes.trans h.escapes, h.states.trans h'.states⟩

lemma grown_of_fill {c c' : Classifier} {d : Document} {i : Nat} (h : c.fill d i = .ok c') :
    c.Grown c' := by
  unfold fill at h
  dsimp only at h
  split at h
  · cases h
    exact .refl c
  · split at h
    · cases h
    · cases h
      exact ⟨rfl, List.prefix_append ..⟩

lemma grown_of_stateIn {c c' : Classifier} {d : Document} {i column : Nat} {s : State}
    (h : c.stateIn d i column = .ok (s, c')) : c.Grown c' := by
  unfold stateIn at h
  cases hf : c.fill d i with
  | error f =>
    rw [hf] at h
    cases h
  | ok c'' =>
    rw [hf] at h
    cases h
    exact grown_of_fill hf

namespace Coherent

variable {c : Classifier} {ls ms : List (List Char)}

lemma length_pos (h : c.Coherent ls) : 0 < c.states.length := List.length_pos_iff.2 h.1

lemma length_le (h : c.Coherent ls) : c.states.length ≤ ls.length + 1 := by
  simpa using h.2.length_le

lemma states_eq (h : c.Coherent ls) :
    c.states = {} :: endStates c.escapes {} (ls.take (c.states.length - 1)) := by
  have hpos := h.length_pos
  have he := List.prefix_iff_eq_take.1 h.2
  rwa [← Nat.sub_add_cancel hpos, List.take_succ_cons, take_endStates] at he

lemma getElem? (h : c.Coherent ls) {i : Nat} (hi : i < c.states.length) :
    c.states[i]? = some (lineState c.escapes ls i) := by
  have hle := h.length_le
  obtain ⟨rest, hrest⟩ := h.2
  rw [← List.getElem?_append_left hi, hrest, getElem?_endStates _ _ _ _ (by omega)]
  rfl

/-- States up to line `i` stay right when lines from `i` on change. -/
theorem flush (h : c.Coherent ls) (i : Nat) (hl : ls.take i = ms.take i) :
    (c.flush i).Coherent ms := by
  unfold Coherent
  rw [states_flush, escapes_flush]
  constructor
  · have hp := h.length_pos
    rw [← List.length_pos_iff, List.length_take]
    omega
  · have he : ({} :: endStates c.escapes {} ls).take (i + 1) =
        ({} :: endStates c.escapes {} ms).take (i + 1) := by
      rw [List.take_succ_cons, List.take_succ_cons, take_endStates, take_endStates, hl]
    rw [List.prefix_iff_eq_take.1 h.2, List.take_take, Nat.min_comm, ← List.take_take, he]
    exact (List.take_prefix ..).trans (List.take_prefix ..)

/-- Filling goes on from the last state that is kept. -/
theorem fill {d : Document} (h : c.Coherent d.lines) {i : Nat} (hi : i < d.lineCount) :
    ∃ c', c.fill d i = .ok c' ∧ c'.escapes = c.escapes ∧ c'.Coherent d.lines ∧
      i < c'.states.length := by
  have hpos := h.length_pos
  have hle := h.length_le
  unfold Classifier.fill
  dsimp only
  split
  · next hlt => exact ⟨c, rfl, rfl, h, hlt⟩
  · next hlt =>
    rw [List.getLast?_eq_getElem?, h.getElem? (by omega)]
    refine ⟨_, rfl, rfl, ⟨by simp [h.1], ?_⟩, ?_⟩
    · have hp := append_endStates_isPrefix c.escapes {} d.lines (c.states.length - 1)
        (i + 1 - c.states.length)
      rwa [← h.states_eq] at hp
    · simp only [List.length_append, length_endStates, List.length_take, List.length_drop]
      unfold Document.lineCount at hi
      omega

/-- A classifier that agrees with the text answers for a column of a line by scanning the lines
above and the line up to there. -/
theorem stateIn {d : Document} (h : c.Coherent d.lines) {i : Nat} (hi : i < d.lineCount)
    (column : Nat) :
    ∃ c', c.stateIn d i column =
        .ok (scan c.escapes (lineState c.escapes d.lines i) ((d.line i).take column), c') ∧
      c'.escapes = c.escapes ∧ c'.Coherent d.lines := by
  obtain ⟨c', hfill, he, hc, hlt⟩ := h.fill hi
  refine ⟨c', ?_, he, hc⟩
  unfold Classifier.stateIn
  rw [hfill]
  simp only [Bind.bind, Except.bind, Pure.pure, Except.pure, hc.getElem? hlt, Option.getD_some, he]

end Coherent
end SqlMargin.Lexical.Classifier
