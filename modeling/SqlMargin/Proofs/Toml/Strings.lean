import SqlMargin.Proofs.Outcome
import SqlMargin.Proofs.Text.Unindent
import SqlMargin.Toml.Parser

/-! Margins of the lines of a TOML document, up to its strings. What stands between the parts of a
document is read in step with the same unindented, and strings over several lines are read as far
and are the same, up to the margins of their lines. -/
namespace SqlMargin.Toml

variable {α : Type}

/-- What was read from a text and from the text unindented, and what is left of each. -/
def InStep (alike : α → α → Prop) (x y : α × List Char) : Prop :=
  alike x.1 y.1 ∧ y.2 = unindent x.2

/-- A text and the same unindented are left. -/
def Unindents (r r' : List Char) : Prop := r' = unindent r

lemma agree_orMalformed {β : Type} {f : α → β} {x y : Option α} (h : x.map f = y.map f) :
    Agree (fun a b => f a = f b) (orMalformed x) (orMalformed y) := by
  cases x with
  | none =>
    cases y with
    | none => exact .error _
    | some b => cases h
  | some a =>
    cases y with
    | none => cases h
    | some b => exact .ok (Option.some.inj h)

/-! What stands between the parts of a document. -/

lemma skipSpaces_unindent (s : List Char) : skipSpaces (unindent s) = unindent (skipSpaces s) :=
  (unindent_contentOf s).symm

lemma expect?_unindent {c : Char} (hc : c ≠ '\n') (s : List Char) :
    expect? c (unindent s) = (expect? c s).map unindent := by
  cases s with
  | nil => rfl
  | cons d s =>
    by_cases hd : d = '\n'
    · subst hd
      simp [expect?, hc]
    · rw [unindent_cons_of_ne hd, expect?, expect?]
      split <;> rfl

lemma expectTwo?_unindent {c : Char} (hc : c ≠ '\n') (s : List Char) :
    expectTwo? c (unindent s) = (expectTwo? c s).map unindent := by
  unfold expectTwo?
  rw [expect?_unindent hc]
  cases expect? c s with
  | none => rfl
  | some rest => exact expect?_unindent hc rest

lemma agree_expect? {c : Char} (hc : c ≠ '\n') (s : List Char) :
    Agree Unindents (orMalformed (expect? c s)) (orMalformed (expect? c (unindent s))) := by
  rw [expect?_unindent hc]
  cases expect? c s with
  | none => exact .error _
  | some rest => exact .ok rfl

lemma agree_expectTwo? {c : Char} (hc : c ≠ '\n') (s : List Char) :
    Agree Unindents (orMalformed (expectTwo? c s)) (orMalformed (expectTwo? c (unindent s))) := by
  rw [expectTwo?_unindent hc]
  cases expectTwo? c s with
  | none => exact .error _
  | some rest => exact .ok rfl

/-- What stands on one line is read alike. -/
lemma onLine_unindent (read : List Char → Except Fault (α × List Char)) (s : List Char) :
    Agree (InStep Eq) (onLine read s) (onLine read (unindent s)) := by
  unfold onLine
  dsimp only
  rw [takeWhile_unindent]
  cases read (s.takeWhile (· != '\n')) with
  | error f => exact .error f
  | ok found => exact .ok ⟨rfl, drop_unindent s (Nat.sub_le ..)⟩

lemma skipComment_unindent (s : List Char) :
    Agree Unindents (skipComment s) (skipComment (unindent s)) := by
  unfold skipComment
  rw [expect?_unindent (by decide)]
  cases expect? '#' s with
  | none => exact .ok rfl
  | some rest =>
    simp only [Option.map_some, takeWhile_unindent, dropWhile_unindent]
    split
    · exact .error _
    · exact .ok rfl

lemma skipGaps_contentOf (s : List Char) : skipGaps false (contentOf s) = skipGaps false s := by
  induction s with
  | nil => rfl
  | cons c s ih =>
    cases h : isIndent c with
    | true =>
      have hspace : isSpace c = true := h
      rw [contentOf_cons_of_isIndent h, ih, skipGaps]
      simp [hspace]
    | false => rw [contentOf_cons_of_not_isIndent h]

lemma skipGaps_unindent (inComment : Bool) (s : List Char) :
    Agree Unindents (skipGaps inComment s) (skipGaps inComment (unindent s)) := by
  induction s generalizing inComment with
  | nil => exact .ok rfl
  | cons c s ih =>
    by_cases hc : c = '\n'
    · subst hc
      have hnext := ih false
      rw [← skipGaps_contentOf (unindent s)] at hnext
      cases inComment with
      | true => exact hnext
      | false => exact hnext
    · rw [unindent_cons_of_ne hc, skipGaps, skipGaps]
      simp only [hc, decide_false, Bool.or_false, if_false]
      split
      · split
        · exact .error _
        · exact ih true
      · split
        · exact ih false
        · split
          · exact ih true
          · exact .ok (unindent_cons_of_ne hc s).symm

/-! Strings. -/

/-- Spaces and line ends are passed over alike. -/
lemma dropWhile_gap_unindent (s : List Char) :
    (unindent s).dropWhile (fun c => isSpace c || c == '\n') =
      unindent (s.dropWhile fun c => isSpace c || c == '\n') := by
  have hcontent : ∀ t : List Char, (contentOf t).dropWhile (fun c => isSpace c || c == '\n') =
      t.dropWhile fun c => isSpace c || c == '\n' := by
    intro t
    induction t with
    | nil => rfl
    | cons c t ih =>
      cases h : isIndent c with
      | true =>
        have hspace : isSpace c = true := h
        rw [contentOf_cons_of_isIndent h, ih, List.dropWhile_cons_of_pos (by simp [hspace])]
      | false => rw [contentOf_cons_of_not_isIndent h]
  induction s with
  | nil => rfl
  | cons c s ih =>
    by_cases hc : c = '\n'
    · subst hc
      rw [unindent_newline, List.dropWhile_cons_of_pos (by simp), flushLeft, hcontent, ih,
        List.dropWhile_cons_of_pos (by simp)]
    · rw [unindent_cons_of_ne hc, List.dropWhile_cons, List.dropWhile_cons]
      split
      · exact ih
      · exact (unindent_cons_of_ne hc s).symm

lemma skipLineEnd_unindent (s : List Char) :
    Agree Unindents (skipLineEnd s) (skipLineEnd (unindent s)) := by
  unfold skipLineEnd
  rw [skipSpaces_unindent]
  cases skipSpaces s with
  | nil => exact .ok rfl
  | cons c rest =>
    by_cases hc : c = '\n'
    · subst hc
      have hgap := dropWhile_gap_unindent ('\n' :: rest)
      rw [unindent_newline, List.dropWhile_cons_of_pos (by simp),
        List.dropWhile_cons_of_pos (by simp)] at hgap
      exact .ok hgap
    · rw [unindent_cons_of_ne hc]
      simp only [hc, if_false]
      exact .error _

lemma escape_unindent (s : List Char) :
    Agree (InStep Eq) (escape true s) (escape true (unindent s)) := by
  cases s with
  | nil => exact .error _
  | cons c s =>
    by_cases hc : c = '\n'
    · subst hc
      exact (skipLineEnd_unindent ('\n' :: s)).map fun _ _ h => ⟨rfl, h⟩
    · have hline := skipLineEnd_unindent (c :: s)
      rw [unindent_cons_of_ne hc] at hline ⊢
      rw [escape, escape]
      cases letterEscapes.lookup c with
      | some d => exact .ok ⟨rfl, rfl⟩
      | none =>
        dsimp only
        split
        · exact onLine_unindent _ s
        · split
          · exact onLine_unindent _ s
          · split
            · exact hline.map fun _ _ h => ⟨rfl, h⟩
            · exact .error _

lemma suffix_of_onLine {read : List Char → Except Fault (α × List Char)} {s r : List Char} {a : α}
    (h : onLine read s = .ok (a, r)) : r <:+ s := by
  obtain ⟨_, _, hr⟩ := exists_of_map_eq_ok h
  rw [← (Prod.mk.inj hr).2]
  exact List.drop_suffix ..

lemma suffix_of_skipLineEnd {s r : List Char} (h : skipLineEnd s = .ok r) : r <:+ s := by
  have hs : skipSpaces s <:+ s := List.dropWhile_suffix _
  unfold skipLineEnd at h
  cases hskip : skipSpaces s with
  | nil =>
    rw [hskip] at h
    cases h
    exact List.nil_suffix
  | cons c rest =>
    rw [hskip] at h hs
    dsimp only at h
    split at h
    · cases h
      exact (List.dropWhile_suffix _).trans ((List.suffix_cons c rest).trans hs)
    · cases h

/-- An escape reads on from where it starts. -/
lemma suffix_of_escape {multiline : Bool} {s cs r : List Char}
    (h : escape multiline s = .ok (cs, r)) : r <:+ s := by
  cases s with
  | nil => cases h
  | cons c s =>
    rw [escape] at h
    split at h
    · cases h
      exact List.suffix_cons ..
    · split at h
      · exact (suffix_of_onLine h).trans (List.suffix_cons ..)
      · split at h
        · exact (suffix_of_onLine h).trans (List.suffix_cons ..)
        · split at h
          · obtain ⟨_, hskip, hr⟩ := exists_of_map_eq_ok h
            cases hr
            exact suffix_of_skipLineEnd hskip
          · cases h

lemma basicString_read (multiline : Bool) (n : Nat) (done s : List Char) :
    basicString multiline n done s = basicString multiline 0 done (s.drop n) := by
  induction s generalizing n with
  | nil => cases n <;> rfl
  | cons c s ih =>
    cases n with
    | zero => rfl
    | succ n => exact ih n

/-- An escape in a string, and the string from there on. -/
lemma basicString_escape (multiline : Bool) (done rest : List Char) :
    basicString multiline 0 done ('\\' :: rest) =
      escape multiline rest >>= fun x => basicString multiline 0 (x.1.reverse ++ done) x.2 := by
  change (escape multiline rest >>= fun x =>
    basicString multiline (rest.length - x.2.length) (x.1.reverse ++ done) rest) = _
  cases h : escape multiline rest with
  | error f => rfl
  | ok x =>
    change basicString multiline _ _ rest = basicString multiline 0 _ x.2
    rw [basicString_read, ← List.suffix_iff_eq_drop.1 (suffix_of_escape h)]

/-- A reader of strings, from what was read on, takes spaces and tabs as they are. -/
def KeepsMargins (read : List Char → List Char → Except Fault (List Char × List Char)) : Prop :=
  ∀ c, isIndent c = true → ∀ done s, read done (c :: s) = read (c :: done) s

lemma basicString_keepsMargins : KeepsMargins (basicString true 0) := by
  intro c hc done s
  rcases (by simpa [isIndent] using hc : c = ' ' ∨ c = '\t') with rfl | rfl
  · rfl
  · rfl

lemma literalLines_keepsMargins : KeepsMargins literalLines := by
  intro c hc done s
  rcases (by simpa [isIndent] using hc : c = ' ' ∨ c = '\t') with rfl | rfl
  · rfl
  · rfl

/-- The starts of two strings, last character first, that texts which differ by margins only may
follow. -/
def Starts (done done' : List Char) : Prop :=
  ∀ x y, unindent x = unindent y → flushLeft (done.reverse ++ x) = flushLeft (done'.reverse ++ y)

namespace Starts

variable {done done' : List Char}

lemma append (h : Starts done done') (cs : List Char) :
    Starts (cs.reverse ++ done) (cs.reverse ++ done') := by
  intro x y hxy
  simpa using h (cs ++ x) (cs ++ y) (unindent_append_congr cs hxy)

lemma cons (h : Starts done done') (c : Char) : Starts (c :: done) (c :: done') := h.append [c]

/-- After a line feed margins make no difference. -/
lemma margin (h : Starts done done') {m : List Char} (hm : ∀ c ∈ m, isIndent c = true) :
    Starts (m.reverse ++ '\n' :: done) ('\n' :: done') := by
  intro x y hxy
  have hline : unindent ('\n' :: (m ++ x)) = unindent ('\n' :: y) := by
    rw [unindent_newline, unindent_newline, flushLeft_append_of_isIndent hm, flushLeft, hxy]
    rfl
  simpa using h _ _ hline

/-- Nor do they at the start. -/
lemma first {m : List Char} (hm : ∀ c ∈ m, isIndent c = true) : Starts m.reverse [] := by
  intro x y hxy
  rw [List.reverse_reverse, flushLeft_append_of_isIndent hm, flushLeft, hxy]
  rfl

end Starts

/-- Strings are alike that differ by margins of lines only. -/
def SameBody (b b' : List Char) : Prop := flushLeft b = flushLeft b'

lemma Starts.sameBody {done done' : List Char} (h : Starts done done') :
    SameBody done.reverse done'.reverse := by
  have hnil := h [] [] rfl
  rwa [List.append_nil, List.append_nil] at hnil

lemma all_marginOf (s : List Char) : ∀ c ∈ marginOf s, isIndent c = true :=
  List.all_eq_true.1 List.all_takeWhile

namespace KeepsMargins

variable {read : List Char → List Char → Except Fault (List Char × List Char)}
  (h : KeepsMargins read)

include h

lemma append {m : List Char} (hm : ∀ c ∈ m, isIndent c = true) (done s : List Char) :
    read done (m ++ s) = read (m.reverse ++ done) s := by
  induction m generalizing done with
  | nil => rfl
  | cons c m ih =>
    rw [List.forall_mem_cons] at hm
    rw [List.cons_append, h c hm.1, ih hm.2]
    simp

/-- With a margin in front that was read before, and without it. -/
lemma agree {done done' s : List Char} (hread : Agree (InStep SameBody)
    (read ((marginOf s).reverse ++ done) (contentOf s)) (read done' (unindent (contentOf s)))) :
    Agree (InStep SameBody) (read done s) (read done' (flushLeft s)) := by
  rwa [← h.append (all_marginOf s), marginOf_append_contentOf, unindent_contentOf] at hread

end KeepsMargins

lemma basicString_unindent {done done' s : List Char} (h : Starts done done') :
    Agree (InStep SameBody) (basicString true 0 done s) (basicString true 0 done' (unindent s)) := by
  -- Margins and escapes are read in one go, so the induction is on how much is left.
  induction hn : s.length using Nat.strongRecOn generalizing s done done' with
  | ind n ih =>
    subst hn
    cases s with
    | nil => exact .error _
    | cons c rest =>
      by_cases hc : c = '\n'
      · subst hc
        have hleft : (contentOf rest).length < ('\n' :: rest).length :=
          Nat.lt_succ_of_le (List.dropWhile_suffix _).length_le
        have hrest := ih _ hleft (h.margin (all_marginOf rest)) rfl
        have hline := basicString_keepsMargins.agree hrest
        exact hline
      · have hnext := ih _ (Nat.lt_succ_self rest.length) (h.cons c) rfl
        rw [unindent_cons_of_ne hc]
        by_cases hescape : c = '\\'
        · subst hescape
          rw [basicString_escape, basicString_escape]
          refine (escape_unindent rest).eq_ok.bind fun x y hxy => ?_
          obtain ⟨⟨hcs, hafter⟩, hx⟩ := hxy
          rw [← hcs, hafter]
          have hleft : x.2.length ≤ rest.length := (suffix_of_escape hx).length_le
          exact ih _ (Nat.lt_succ_of_le hleft) (h.append x.1) rfl
        · rw [basicString, basicString]
          simp only [hescape, Bool.not_true, Bool.false_eq_true, if_false]
          split
          · rw [expectTwo?_unindent (by decide)]
            cases expectTwo? '"' rest with
            | none => exact hnext
            | some after => exact .ok ⟨h.sameBody, rfl⟩
          · split
            · exact .error _
            · exact hnext

lemma literalLines_unindent {done done' s : List Char} (h : Starts done done') :
    Agree (InStep SameBody) (literalLines done s) (literalLines done' (unindent s)) := by
  induction hn : s.length using Nat.strongRecOn generalizing s done done' with
  | ind n ih =>
    subst hn
    cases s with
    | nil => exact .error _
    | cons c rest =>
      by_cases hc : c = '\n'
      · subst hc
        have hleft : (contentOf rest).length < ('\n' :: rest).length :=
          Nat.lt_succ_of_le (List.dropWhile_suffix _).length_le
        have hrest := ih _ hleft (h.margin (all_marginOf rest)) rfl
        have hline := literalLines_keepsMargins.agree hrest
        exact hline
      · have hnext := ih _ (Nat.lt_succ_self rest.length) (h.cons c) rfl
        rw [unindent_cons_of_ne hc, literalLines, literalLines]
        split
        · rw [expectTwo?_unindent (by decide)]
          cases expectTwo? '\x27' rest with
          | none => exact hnext
          | some after => exact .ok ⟨h.sameBody, rfl⟩
        · split
          · exact .error _
          · exact hnext

/-- A line end that does not belong to the string takes the margin after it along. -/
lemma KeepsMargins.lines_unindent
    {read : List Char → List Char → Except Fault (List Char × List Char)} (h : KeepsMargins read)
    (hread : ∀ done done' s, Starts done done' →
      Agree (InStep SameBody) (read done s) (read done' (unindent s))) (s : List Char) :
    Agree (InStep SameBody) (read [] (skipFirstLineEnd s))
      (read [] (skipFirstLineEnd (unindent s))) := by
  cases s with
  | nil => exact hread [] [] [] (Starts.first (m := []) (by simp))
  | cons c s =>
    by_cases hc : c = '\n'
    · subst hc
      apply h.agree
      rw [List.append_nil]
      exact hread _ _ (contentOf s) (Starts.first (all_marginOf s))
    · have hs := hread [] [] (c :: s) (Starts.first (m := []) (by simp))
      have hskip : ∀ t : List Char, skipFirstLineEnd (c :: t) = c :: t := by
        intro t
        simp [skipFirstLineEnd, expect?, Ne.symm hc]
      rw [unindent_cons_of_ne hc] at hs ⊢
      rwa [hskip, hskip]

lemma SameBody.append_mark {b b' : List Char} (h : SameBody b b') {mark : Char}
    (hn : mark ≠ '\n') (hm : isIndent mark = false) : SameBody (b ++ [mark]) (b' ++ [mark]) := by
  unfold SameBody at h ⊢
  rw [flushLeft_append_mark b hn hm, flushLeft_append_mark b' hn hm, h]

lemma extraQuotes_unindent {mark : Char} (hn : mark ≠ '\n') (hm : isIndent mark = false)
    {b b' : List Char} (h : SameBody b b') (s : List Char) :
    InStep SameBody (extraQuotes mark b s) (extraQuotes mark b' (unindent s)) := by
  unfold extraQuotes
  rw [expectTwo?_unindent hn, expect?_unindent hn]
  cases expectTwo? mark s with
  | some after =>
    have htwo := (h.append_mark hn hm).append_mark hn hm
    rw [List.append_assoc, List.append_assoc] at htwo
    exact ⟨htwo, rfl⟩
  | none =>
    cases expect? mark s with
    | some after => exact ⟨h.append_mark hn hm, rfl⟩
    | none => exact ⟨h, rfl⟩

lemma quoted_unindent {mark : Char} (hn : mark ≠ '\n') (hm : isIndent mark = false)
    (s : List Char) : Agree (InStep SameBody) (quoted mark s) (quoted mark (unindent s)) := by
  unfold quoted
  rw [expectTwo?_unindent hn]
  cases expectTwo? mark s with
  | none => exact (onLine_unindent _ s).imp fun x y h => ⟨congrArg flushLeft h.1, h.2⟩
  | some rest =>
    have hfinish : ∀ x y : List Char × List Char, InStep SameBody x y →
        InStep SameBody (extraQuotes mark x.1 x.2) (extraQuotes mark y.1 y.2) := by
      rintro x y ⟨hbody, hrest⟩
      rw [hrest]
      exact extraQuotes_unindent hn hm hbody x.2
    rw [Option.map_some]
    dsimp only
    split
    · exact (basicString_keepsMargins.lines_unindent (fun _ _ _ => basicString_unindent) rest).map
        hfinish
    · exact (literalLines_keepsMargins.lines_unindent (fun _ _ _ => literalLines_unindent) rest).map
        hfinish

end SqlMargin.Toml
