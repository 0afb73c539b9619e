import SqlMargin.Proofs.Toml.Strings
import SqlMargin.Proofs.Toml.Tables

/-! Margins of the lines of a TOML document. A document is read in step with the same document
unindented: both are refused for the same reason, or both have the same entries, up to the margins
of lines in texts. -/
namespace SqlMargin.Toml

/-! Values. -/

/-- Values are alike that differ by margins of lines in texts only. -/
def SameValue (v w : Value) : Prop := v.flushLeft = w.flushLeft

lemma stringValue?_unindent (s : List Char) :
    Option.Rel (Agree (InStep SameValue)) (stringValue? s) (stringValue? (unindent s)) := by
  cases s with
  | nil => exact .none
  | cons c s =>
    by_cases hmark : c = '"' ∨ c = '\x27'
    · have hn : c ≠ '\n' := by
        rintro rfl
        simp at hmark
      have hm : isIndent c = false := by
        rcases hmark with rfl | rfl
        · rfl
        · rfl
      rw [unindent_cons_of_ne hn, stringValue?, stringValue?, if_pos (by simpa using hmark),
        if_pos (by simpa using hmark)]
      refine .some ((quoted_unindent hn hm s).map fun x y h => ⟨?_, h.2⟩)
      change Value.text _ = Value.text _
      rw [String.toList_ofList, String.toList_ofList, h.1]
    · have hnone : ∀ t, stringValue? (c :: t) = none := fun t => if_neg (by simpa using hmark)
      rw [unindent]
      split
      · rw [hnone, hnone]
        exact .none
      · rw [hnone, hnone]
        exact .none

/-- What is read with some fuel, by each of the functions that read values. -/
structure Reads (n : Nat) : Prop where
  value : ∀ room s, Agree (InStep SameValue) (value n room s) (value n room (unindent s))
  array : ∀ room s, Agree (InStep SameValue) (array n room s) (array n room (unindent s))
  arrayItems : ∀ room s, Agree (InStep fun vs ws => vs.map Value.flushLeft = ws.map Value.flushLeft)
    (arrayItems n room s) (arrayItems n room (unindent s))
  inlineTable : ∀ room s,
    Agree (InStep SameValue) (inlineTable n room s) (inlineTable n room (unindent s))
  inlineEntries : ∀ room (done done' : Entries) frozen s, done.flushLeft = done'.flushLeft →
    Agree (InStep fun t t' => t.flushLeft = t'.flushLeft) (inlineEntries n room done frozen s)
      (inlineEntries n room done' frozen (unindent s))
  keyValue : ∀ room s, Agree (InStep fun x y => x.1 = y.1 ∧ SameValue x.2 y.2) (keyValue n room s)
    (keyValue n room (unindent s))

namespace Reads

variable {n : Nat} (h : Reads n)
include h

lemma value_succ (room : Nat) (s : List Char) :
    Agree (InStep SameValue) (Toml.value (n + 1) room s) (Toml.value (n + 1) room (unindent s)) := by
  have hstring := stringValue?_unindent s
  rw [Toml.value, Toml.value]
  generalize stringValue? s = x at hstring ⊢
  generalize stringValue? (unindent s) = y at hstring ⊢
  cases hstring with
  | some hxy => exact hxy
  | none =>
    dsimp only
    rw [expect?_unindent (by decide), expect?_unindent (by decide)]
    cases expect? '[' s with
    | some rest => exact h.array room rest
    | none =>
      cases expect? '\x7b' s with
      | some rest => exact h.inlineTable room rest
      | none => exact (onLine_unindent _ s).imp fun x y h => ⟨congrArg Value.flushLeft h.1, h.2⟩

lemma array_succ (room : Nat) (s : List Char) :
    Agree (InStep SameValue) (Toml.array (n + 1) room s) (Toml.array (n + 1) room (unindent s)) := by
  rw [Toml.array, Toml.array]
  split
  · exact .error _
  · refine (skipGaps_unindent false s).bind fun r r' hr => ?_
    subst hr
    rw [expect?_unindent (by decide)]
    cases expect? ']' r with
    | some after => exact .ok ⟨rfl, rfl⟩
    | none =>
      refine (h.arrayItems _ r).bind fun x y hxy => .ok ⟨?_, hxy.2⟩
      change (Value.list x.1).flushLeft = (Value.list y.1).flushLeft
      rw [Value.flushLeft_list, Value.flushLeft_list, hxy.1]

lemma arrayItems_succ (room : Nat) (s : List Char) :
    Agree (InStep fun vs ws => vs.map Value.flushLeft = ws.map Value.flushLeft)
      (Toml.arrayItems (n + 1) room s) (Toml.arrayItems (n + 1) room (unindent s)) := by
  rw [Toml.arrayItems, Toml.arrayItems]
  refine (h.value room s).bind fun x y hxy => ?_
  obtain ⟨v, rest⟩ := x
  obtain ⟨w, rest'⟩ := y
  obtain ⟨hv : v.flushLeft = w.flushLeft, rfl⟩ := hxy
  refine (skipGaps_unindent false rest).bind fun r r' hr => ?_
  subst hr
  rw [expect?_unindent (by decide)]
  cases expect? ']' r with
  | some after => exact .ok ⟨by simp [hv], rfl⟩
  | none =>
    refine (agree_expect? (by decide) r).bind fun r r' hr => ?_
    subst hr
    refine (skipGaps_unindent false r).bind fun r r' hr => ?_
    subst hr
    rw [expect?_unindent (by decide)]
    cases expect? ']' r with
    | some after => exact .ok ⟨by simp [hv], rfl⟩
    | none =>
      refine (h.arrayItems room r).bind fun x y hxy => .ok ⟨?_, hxy.2⟩
      simp [hv, hxy.1]

lemma inlineTable_succ (room : Nat) (s : List Char) :
    Agree (InStep SameValue) (Toml.inlineTable (n + 1) room s)
      (Toml.inlineTable (n + 1) room (unindent s)) := by
  rw [Toml.inlineTable, Toml.inlineTable, skipSpaces_unindent, expect?_unindent (by decide)]
  split
  · exact .error _
  · cases expect? '\x7d' (skipSpaces s) with
    | some after => exact .ok ⟨rfl, rfl⟩
    | none =>
      refine (h.inlineEntries _ [] [] [] _ rfl).bind fun x y hxy => .ok ⟨?_, hxy.2⟩
      change (Value.table x.1).flushLeft = (Value.table y.1).flushLeft
      rw [Value.flushLeft_table, Value.flushLeft_table, hxy.1]

lemma inlineEntries_succ (room : Nat) {done done' : Entries} (frozen : List (List String))
    (s : List Char) (hdone : done.flushLeft = done'.flushLeft) :
    Agree (InStep fun t t' => t.flushLeft = t'.flushLeft)
      (Toml.inlineEntries (n + 1) room done frozen s)
      (Toml.inlineEntries (n + 1) room done' frozen (unindent s)) := by
  rw [Toml.inlineEntries, Toml.inlineEntries]
  refine (h.keyValue room s).bind fun x y hxy => ?_
  obtain ⟨⟨path, v⟩, rest⟩ := x
  obtain ⟨⟨path', w⟩, rest'⟩ := y
  obtain ⟨⟨rfl : path = path', hv : v.flushLeft = w.flushLeft⟩, rfl⟩ := hxy
  have halter : (alter? false (addNew? (path.getLast?.getD "") v) path.dropLast done).map
      Entries.flushLeft = (alter? false (addNew? (path.getLast?.getD "") w) path.dropLast done').map
        Entries.flushLeft := by
    rw [← alter?_flushLeft false (addNew?_flushLeft _ v), ← alter?_flushLeft false
      (addNew?_flushLeft _ w), hv, hdone]
  have hcontainer : isContainer v = isContainer w := by
    rw [← v.isContainer_flushLeft, hv, w.isContainer_flushLeft]
  dsimp only
  split
  · exact .error _
  · refine (agree_orMalformed halter).bind fun t t' ht => ?_
    rw [skipSpaces_unindent, expect?_unindent (by decide)]
    cases expect? '\x7d' (skipSpaces rest) with
    | some after => exact .ok ⟨ht, rfl⟩
    | none =>
      refine (agree_expect? (by decide) _).bind fun r r' hr => ?_
      subst hr
      rw [skipSpaces_unindent, hcontainer]
      exact h.inlineEntries room _ _ _ _ ht

lemma keyValue_succ (room : Nat) (s : List Char) :
    Agree (InStep fun x y => x.1 = y.1 ∧ SameValue x.2 y.2) (Toml.keyValue (n + 1) room s)
      (Toml.keyValue (n + 1) room (unindent s)) := by
  rw [Toml.keyValue, Toml.keyValue]
  refine (onLine_unindent _ s).bind fun x y hxy => ?_
  obtain ⟨path, rest⟩ := x
  obtain ⟨path', rest'⟩ := y
  obtain ⟨rfl : path = path', rfl⟩ := hxy
  refine (agree_expect? (by decide) rest).bind fun r r' hr => ?_
  subst hr
  rw [skipSpaces_unindent]
  exact (h.value room _).bind fun x y hxy => .ok ⟨⟨rfl, hxy.1⟩, hxy.2⟩

end Reads

lemma reads (n : Nat) : Reads n := by
  induction n with
  | zero =>
    constructor
    all_goals
      intros
      simp only [value, array, arrayItems, inlineTable, inlineEntries, keyValue]
      exact .error _
  | succ n ih =>
    exact ⟨ih.value_succ, ih.array_succ, ih.arrayItems_succ, ih.inlineTable_succ,
      fun room _ _ frozen s hdone => ih.inlineEntries_succ room frozen s hdone, ih.keyValue_succ⟩

/-! Documents. -/

/-- Drafts are alike that differ by margins of lines in texts only. -/
def SameDraft (d d' : Draft) : Prop := d.flushLeft = d'.flushLeft

section Draft

variable {d d' : Draft}

lemma opened_unindent {enter : Draft → List String → Option Draft}
    (henter : ∀ path, (enter d path).map Draft.flushLeft = (enter d' path).map Draft.flushLeft)
    {close : List Char → Option (List Char)}
    (hclose : ∀ s, Agree Unindents (orMalformed (close s)) (orMalformed (close (unindent s))))
    (s : List Char) :
    Agree (InStep SameDraft)
      (do
        let (path, rest) ← key (skipSpaces s)
        let d ← orMalformed (enter d path)
        pure (d, ← orMalformed (close rest)))
      (do
        let (path, rest) ← key (skipSpaces (unindent s))
        let d ← orMalformed (enter d' path)
        pure (d, ← orMalformed (close rest))) := by
  rw [skipSpaces_unindent]
  refine (onLine_unindent _ _).bind fun x y hxy => ?_
  obtain ⟨path, rest⟩ := x
  obtain ⟨path', rest'⟩ := y
  obtain ⟨rfl : path = path', rfl⟩ := hxy
  refine (agree_orMalformed (henter path)).bind fun e e' he => ?_
  exact (hclose rest).bind fun r r' hr => .ok ⟨he, hr⟩

variable (h : SameDraft d d')
include h

lemma header_unindent (s : List Char) :
    Agree (InStep SameDraft) (header d s) (header d' (unindent s)) := by
  unfold header
  rw [expect?_unindent (by decide)]
  cases expect? '[' s with
  | some rest =>
    refine opened_unindent (fun path => ?_) (agree_expectTwo? (by decide)) rest
    rw [← openArray?_flushLeft, ← openArray?_flushLeft, h]
  | none =>
    refine opened_unindent (fun path => ?_) (agree_expect? (by decide)) s
    rw [← openTable?_flushLeft, ← openTable?_flushLeft, h]

lemma statement_unindent (room n : Nat) (s : List Char) :
    Agree (InStep SameDraft) (statement room n d s) (statement room n d' (unindent s)) := by
  unfold statement
  rw [expect?_unindent (by decide), expect?_unindent (by decide), Option.isSome_map]
  cases expect? '[' s with
  | some rest => exact header_unindent h rest
  | none =>
    dsimp only [Option.map_none]
    split
    · exact .ok ⟨h, rfl⟩
    · refine ((reads n).keyValue room s).bind fun x y hxy => ?_
      obtain ⟨⟨path, v⟩, rest⟩ := x
      obtain ⟨⟨path', w⟩, rest'⟩ := y
      obtain ⟨⟨rfl : path = path', hv : v.flushLeft = w.flushLeft⟩, rfl⟩ := hxy
      have henter : (d.enter? path v).map Draft.flushLeft =
          (d'.enter? path w).map Draft.flushLeft := by
        rw [← enter?_flushLeft, ← enter?_flushLeft, h, hv]
      exact (agree_orMalformed henter).bind fun e e' he => .ok ⟨he, rfl⟩

end Draft

lemma statements_contentOf (room n : Nat) (d : Draft) (s : List Char) :
    statements room n d (contentOf s) = statements room n d s := by
  cases n with
  | zero => rfl
  | succ n =>
    have hskip : skipSpaces (contentOf s) = skipSpaces s := contentOf_contentOf s
    rw [statements, statements, hskip]

lemma statements_unindent (room n : Nat) {d d' : Draft} (h : SameDraft d d') (s : List Char) :
    Agree SameDraft (statements room n d s) (statements room n d' (unindent s)) := by
  induction n generalizing d d' s with
  | zero => exact .error _
  | succ n ih =>
    rw [statements, statements, skipSpaces_unindent]
    cases skipSpaces s with
    | nil => exact .ok h
    | cons c rest =>
      by_cases hc : c = '\n'
      · subst hc
        have hrest := ih h rest
        rw [← statements_contentOf room n d' (unindent rest)] at hrest
        exact hrest
      · have hstatement := statement_unindent h room n (c :: rest)
        rw [unindent_cons_of_ne hc] at hstatement ⊢
        simp only [hc, if_false]
        refine hstatement.bind fun x y hxy => ?_
        obtain ⟨e, r⟩ := x
        obtain ⟨e', r'⟩ := y
        obtain ⟨he : SameDraft e e', rfl⟩ := hxy
        dsimp only
        rw [skipSpaces_unindent]
        refine (skipComment_unindent _).bind fun r r' hr => ?_
        subst hr
        cases r with
        | nil => exact .ok he
        | cons c rest =>
          by_cases hc : c = '\n'
          · subst hc
            have hrest := ih he rest
            rw [← statements_contentOf room n e' (unindent rest)] at hrest
            exact hrest
          · rw [unindent_cons_of_ne hc]
            simp only [hc, if_false]
            exact .error _

lemma unifyLineEnds_cons {c : Char} {s : List Char} (h : c = '\r' → s.head? ≠ some '\n') :
    unifyLineEnds (c :: s) = c :: unifyLineEnds s := by
  rw [unifyLineEnds]
  intro rest hc hs
  exact h hc (by rw [hs]; rfl)

lemma unifyLineEnds_contentOf (s : List Char) :
    unifyLineEnds (contentOf s) = contentOf (unifyLineEnds s) := by
  fun_induction unifyLineEnds s with
  | case1 rest ih => rfl
  | case2 c rest hc ih =>
    cases h : isIndent c with
    | true => rw [contentOf_cons_of_isIndent h, contentOf_cons_of_isIndent h, ih]
    | false =>
      rw [contentOf_cons_of_not_isIndent h, contentOf_cons_of_not_isIndent h, unifyLineEnds]
      exact hc
  | case3 => rfl

lemma unifyLineEnds_unindent (s : List Char) :
    unifyLineEnds (unindent s) = unindent (unifyLineEnds s) := by
  fun_induction unifyLineEnds s with
  | case1 rest ih =>
    change '\n' :: unifyLineEnds (contentOf (unindent rest)) = '\n' :: contentOf _
    rw [unifyLineEnds_contentOf, ih]
  | case2 c rest hc ih =>
    have hcr : c = '\r' → (unindent rest).head? ≠ some '\n' := by
      intro hr hn
      rw [head?_unindent] at hn
      obtain ⟨t, ht⟩ := List.head?_eq_some_iff.1 hn
      exact hc t hr ht
    by_cases hn : c = '\n'
    · subst hn
      rw [unindent_newline, unindent_newline, unifyLineEnds_cons (by simp), flushLeft,
        unifyLineEnds_contentOf, ih]
      rfl
    · rw [unindent_cons_of_ne hn, unindent_cons_of_ne hn, unifyLineEnds_cons hcr, ih]
  | case3 => rfl

/-- A document and the same with its lines flush left: both are refused for the same reason, or
their entries are the same, up to the margins of lines in texts. -/
theorem parse_flushLeft (room : Nat) (t : List Char) :
    (parse room (flushLeft t)).map Entries.flushLeft = (parse room t).map Entries.flushLeft := by
  have hline : unifyLineEnds (flushLeft t) = flushLeft (unifyLineEnds t) := by
    rw [flushLeft, unifyLineEnds_contentOf, unifyLineEnds_unindent, flushLeft]
  have hfuel : (flushLeft (unifyLineEnds t)).countP (!isSpace ·) =
      (unifyLineEnds t).countP (!isSpace ·) := countP_flushLeft _
  unfold parse
  rw [hline]
  dsimp only
  rw [hfuel, flushLeft, statements_contentOf]
  generalize 3 * (unifyLineEnds t).countP (!isSpace ·) + 4 = fuel
  have hsame : SameDraft {} {} := rfl
  have hsteps := statements_unindent room fuel hsame (unifyLineEnds t)
  generalize statements room fuel {} (unifyLineEnds t) = x at hsteps ⊢
  generalize statements room fuel {} (unindent (unifyLineEnds t)) = y at hsteps ⊢
  cases hsteps with
  | error f => rfl
  | ok h => exact congrArg Except.ok (congrArg Draft.entries h.symm)

end SqlMargin.Toml
