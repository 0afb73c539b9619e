import Mathlib.Data.List.Basic
import SqlMargin.Proofs.Text.Unindent
import SqlMargin.Text.Lowercase
import SqlMargin.Text.Blank

/-! The words of a text: its longest runs of characters that are not whitespace. Trimming and
margins leave them as they are, and lower case leaves as many of them, so a text that is one word
after all that was one word all along. -/
namespace SqlMargin.Text

/-- A run of characters as a word, if there is one. -/
def closeWord (read : List Char) : List (List Char) := if read = [] then [] else [read]

/-- The words of a text that goes on from the characters read of a word. -/
def wordsFrom (read : List Char) : List Char → List (List Char)
  | [] => closeWord read
  | c :: s => if isBlank c then closeWord read ++ wordsFrom [] s else wordsFrom (read ++ [c]) s

def words (s : List Char) : List (List Char) := wordsFrom [] s

section Words

variable {c : Char} {read s t w : List Char}

lemma wordsFrom_blank (h : isBlank c = true) (read s : List Char) :
    wordsFrom read (c :: s) = closeWord read ++ words s := if_pos h

lemma wordsFrom_solid (h : isBlank c = false) (read s : List Char) :
    wordsFrom read (c :: s) = wordsFrom (read ++ [c]) s := if_neg (by simp [h])

/-- Whitespace in front makes no difference. -/
lemma words_cons_blank (h : isBlank c = true) (s : List Char) : words (c :: s) = words s :=
  wordsFrom_blank h [] s

lemma words_dropWhile {p : Char → Bool} (hp : ∀ c, p c = true → isBlank c = true) (s : List Char) :
    words (s.dropWhile p) = words s := by
  induction s with
  | nil => rfl
  | cons c s ih =>
    rw [List.dropWhile_cons]
    split
    · next hc => rw [ih, words_cons_blank (hp c hc)]
    · rfl

lemma wordsFrom_allBlank (h : allBlank t = true) : wordsFrom read t = closeWord read := by
  induction t generalizing read with
  | nil => rfl
  | cons c t ih =>
    rw [allBlank_cons, Bool.and_eq_true] at h
    rw [wordsFrom_blank h.1, words, ih h.2]
    exact List.append_nil _

/-- Nor does whitespace at the end. -/
lemma wordsFrom_append_allBlank (h : allBlank t = true) (read s : List Char) :
    wordsFrom read (s ++ t) = wordsFrom read s := by
  induction s generalizing read with
  | nil => exact wordsFrom_allBlank h
  | cons c s ih =>
    rw [List.cons_append]
    cases hc : isBlank c with
    | true => rw [wordsFrom_blank hc, wordsFrom_blank hc, words, ih, words]
    | false => rw [wordsFrom_solid hc, wordsFrom_solid hc, ih]

lemma words_trimRight (s : List Char) : words (trimRight s) = words s := by
  have hblank : allBlank (s.reverse.takeWhile isBlank).reverse = true := by
    rw [allBlank, List.all_reverse]
    exact List.all_takeWhile
  have hsplit : trimRight s ++ (s.reverse.takeWhile isBlank).reverse = s := by
    rw [trimRight, ← List.reverse_append, List.takeWhile_append_dropWhile, List.reverse_reverse]
  calc words (trimRight s) = words (trimRight s ++ (s.reverse.takeWhile isBlank).reverse) :=
        (wordsFrom_append_allBlank hblank [] _).symm
    _ = words s := by rw [hsplit]

lemma words_trim (s : List Char) : words (trim s) = words s := by
  rw [trim, words_trimRight]
  exact words_dropWhile (fun _ h => h) s

/-! Margins. -/

lemma isBlank_of_isIndent (h : isIndent c = true) : isBlank c = true := by
  unfold isIndent at h
  rw [Bool.or_eq_true, beq_iff_eq, beq_iff_eq] at h
  rcases h with rfl | rfl
  all_goals decide

lemma words_contentOf (s : List Char) : words (contentOf s) = words s :=
  words_dropWhile (fun _ => isBlank_of_isIndent) s

lemma wordsFrom_unindent (read s : List Char) : wordsFrom read (unindent s) = wordsFrom read s := by
  induction s generalizing read with
  | nil => rfl
  | cons c s ih =>
    by_cases hc : c = '\n'
    · subst hc
      have hblank : isBlank '\n' = true := by decide
      rw [unindent_newline, wordsFrom_blank hblank, wordsFrom_blank hblank, flushLeft,
        words_contentOf, words, ih, words]
    · rw [unindent_cons_of_ne hc, wordsFrom, wordsFrom, ih, ih]

/-- A margin stands after whitespace, and is whitespace. -/
lemma words_flushLeft (s : List Char) : words (flushLeft s) = words s := by
  rw [flushLeft, words_contentOf, words, wordsFrom_unindent, words]

/-! Texts with one word. -/

lemma wordsFrom_append_of_solid (h : ∀ c ∈ w, isBlank c = false) (read s : List Char) :
    wordsFrom read (w ++ s) = wordsFrom (read ++ w) s := by
  induction w generalizing read with
  | nil => rw [List.nil_append, List.append_nil]
  | cons c w ih =>
    rw [List.forall_mem_cons] at h
    rw [List.cons_append, wordsFrom_solid h.1, ih h.2, List.append_assoc, List.singleton_append]

lemma words_of_isWord (h : isWord w = true) : words w = [w] := by
  unfold isWord at h
  rw [Bool.and_eq_true, Bool.not_eq_true', List.isEmpty_eq_false_iff, List.all_eq_true] at h
  have hsolid : ∀ c ∈ w, isBlank c = false := fun c hc => by simpa using h.2 c hc
  have hread := wordsFrom_append_of_solid hsolid [] []
  rw [List.append_nil, List.nil_append] at hread
  exact hread.trans (if_neg h.1)

lemma wordsFrom_eq_nil_iff : wordsFrom read s = [] ↔ read = [] ∧ allBlank s = true := by
  induction s generalizing read with
  | nil => simp [wordsFrom, closeWord]
  | cons c s ih =>
    cases hc : isBlank c with
    | true => simp [wordsFrom_blank hc, words, ih, closeWord, hc]
    | false => simp [wordsFrom_solid hc, ih, hc]

lemma trimRight_append_allBlank (h : allBlank t = true) (s : List Char) :
    trimRight (s ++ t) = trimRight s := by
  unfold trimRight
  rw [List.reverse_append, List.dropWhile_append_of_pos]
  simpa [allBlank] using h

lemma trimRight_of_solid (h : ∀ c ∈ w, isBlank c = false) : trimRight w = w := by
  unfold trimRight
  have hkeep : w.reverse.dropWhile isBlank = w.reverse := by
    cases hr : w.reverse with
    | nil => rfl
    | cons c r =>
      have hc : c ∈ w := by rw [← List.mem_reverse, hr]; exact List.mem_cons_self
      exact List.dropWhile_cons_of_neg (by simp [h c hc])
  rw [hkeep, List.reverse_reverse]

/-- A text whose one word has begun. -/
lemma trimRight_of_wordsFrom (hread : ∀ c ∈ read, isBlank c = false) (hne : read ≠ [])
    (h : wordsFrom read s = [w]) : trimRight (read ++ s) = w := by
  induction s generalizing read with
  | nil =>
    rw [wordsFrom, closeWord, if_neg hne, List.cons.injEq] at h
    rw [List.append_nil, trimRight_of_solid hread, h.1]
  | cons c s ih =>
    cases hc : isBlank c with
    | true =>
      rw [wordsFrom_blank hc, closeWord, if_neg hne, List.singleton_append, List.cons.injEq] at h
      have hblank : allBlank (c :: s) = true := by simp [hc, (wordsFrom_eq_nil_iff.1 h.2).2]
      rw [trimRight_append_allBlank hblank, trimRight_of_solid hread, h.1]
    | false =>
      rw [wordsFrom_solid hc] at h
      have hsolid : ∀ v ∈ read ++ [c], isBlank v = false := by
        simpa [or_imp, forall_and, hc] using hread
      have hnext := ih hsolid (by simp) h
      rwa [List.append_assoc] at hnext

/-- A text with one word is that word once it is trimmed. -/
lemma trim_of_words (h : words s = [w]) : trim s = w := by
  unfold trim trimLeft
  induction s with
  | nil => cases h
  | cons c s ih =>
    cases hc : isBlank c with
    | true =>
      rw [words_cons_blank hc] at h
      rw [List.dropWhile_cons_of_pos hc, ih h]
    | false =>
      rw [words, wordsFrom_solid hc] at h
      rw [List.dropWhile_cons_of_neg (by simp [hc])]
      exact trimRight_of_wordsFrom (by simpa using hc) (by simp) h

/-- Whitespace ends a word. -/
lemma wordsFrom_append_blank (h : isBlank c = true) (read s t : List Char) :
    wordsFrom read (s ++ c :: t) = wordsFrom read s ++ words t := by
  induction s generalizing read with
  | nil => exact wordsFrom_blank h read t
  | cons d s ih =>
    rw [List.cons_append]
    cases hd : isBlank d with
    | true => rw [wordsFrom_blank hd, wordsFrom_blank hd, words, words, ih, List.append_assoc, words]
    | false => rw [wordsFrom_solid hd, wordsFrom_solid hd, ih]

/-- A word that has begun goes on up to the next whitespace. -/
lemma head?_wordsFrom (h : read ≠ []) (s : List Char) :
    (wordsFrom read s).head? = some (read ++ s.takeWhile fun c => !isBlank c) := by
  induction s generalizing read with
  | nil => simp [wordsFrom, closeWord, h]
  | cons c s ih =>
    cases hc : isBlank c with
    | true => simp [wordsFrom_blank hc, closeWord, h, hc]
    | false => simp [wordsFrom_solid hc, ih, hc]

lemma head?_words (h : allBlank s = false) : (words s).head? = some (firstWord s) := by
  unfold firstWord trimLeft
  induction s with
  | nil => cases h
  | cons c s ih =>
    cases hc : isBlank c with
    | true =>
      rw [allBlank_cons, hc, Bool.true_and] at h
      rw [words_cons_blank hc, ih h, List.dropWhile_cons_of_pos hc]
    | false =>
      rw [List.dropWhile_cons_of_neg (by simp [hc]), words, wordsFrom_solid hc]
      exact (head?_wordsFrom (by simp) s).trans (by simp [hc])

end Words

/-! Lower case. No small letter is whitespace, and whitespace has no small letter. -/

lemma exists_mem_of_covers {ranges : List (Nat × Nat)} {n : Nat} (h : covers ranges n = true) :
    ∃ r ∈ ranges, r.1 ≤ n ∧ n ≤ r.2 := by
  induction ranges with
  | nil => cases h
  | cons r ranges ih =>
    simp only [covers, Bool.and_eq_true, Bool.or_eq_true, decide_eq_true_eq] at h
    rcases h.2 with hle | hrest
    · exact ⟨r, List.mem_cons_self, h.1, hle⟩
    · obtain ⟨r', hr', hin⟩ := ih hrest
      exact ⟨r', List.mem_cons_of_mem r hr', hin⟩

lemma exists_mem_of_smallLetter? {runs : List CaseRun} {n m : Nat}
    (h : smallLetter? runs n = some m) :
    ∃ r ∈ runs, r.first ≤ n ∧ n ≤ r.last ∧ (n - r.first) % r.step = 0 ∧
      m = (n + r.shift).toNat := by
  induction runs with
  | nil => cases h
  | cons r runs ih =>
    rw [smallLetter?] at h
    split_ifs at h with hlt hin
    · rw [Bool.and_eq_true, decide_eq_true_eq, beq_iff_eq] at hin
      exact ⟨r, List.mem_cons_self, by omega, hin.1, hin.2, (Option.some.inj h).symm⟩
    · obtain ⟨r', hr', hr⟩ := ih h
      exact ⟨r', List.mem_cons_of_mem r hr', hr⟩

/-- Neither the capitals of a run nor their small letters are in a range. -/
def CaseRun.Avoids (r : CaseRun) (range : Nat × Nat) : Prop :=
  (r.last < range.1 ∨ range.2 < r.first) ∧
    (r.last + r.shift < range.1 ∨ range.2 < r.first + r.shift)

instance (r : CaseRun) (range : Nat × Nat) : Decidable (r.Avoids range) :=
  inferInstanceAs (Decidable (_ ∧ _))

lemma caseRuns_avoid : ∀ r ∈ caseRuns, ∀ range ∈ blankRanges, r.Avoids range := by decide +kernel

lemma blankRanges_pos : ∀ range ∈ blankRanges, 0 < range.1 := by decide

lemma lowerChar_of_isBlank {c : Char} (h : isBlank c = true) : lowerChar c = [c] := by
  have hi : c ≠ '\u0130' := by
    rintro rfl
    exact absurd h (by decide)
  have hnone : smallLetter? caseRuns c.toNat = none := by
    rw [Option.eq_none_iff_forall_ne_some]
    intro m hm
    obtain ⟨range, hrange, hin⟩ := exists_mem_of_covers h
    obtain ⟨r, hr, hfirst, hlast, -⟩ := exists_mem_of_smallLetter? hm
    have havoid := (caseRuns_avoid r hr range hrange).1
    omega
  rw [lowerChar, if_neg hi, hnone]
  rfl

lemma toNat_ofNat_eq (n : Nat) : (Char.ofNat n).toNat = n ∨ (Char.ofNat n).toNat = 0 := by
  by_cases h : n.isValidChar
  · rw [Char.ofNat, dif_pos h]
    exact .inl rfl
  · rw [Char.ofNat, dif_neg h]
    exact .inr rfl

lemma isBlank_lowerChar {c d : Char} (h : isBlank c = false) (hd : d ∈ lowerChar c) :
    isBlank d = false := by
  unfold lowerChar at hd
  split at hd
  · rw [List.mem_cons, List.mem_singleton] at hd
    rcases hd with rfl | rfl
    all_goals decide
  · cases hs : smallLetter? caseRuns c.toNat with
    | none =>
      rw [hs] at hd
      rwa [List.mem_singleton.1 hd]
    | some m =>
      rw [hs] at hd
      rw [List.mem_singleton.1 hd, ← Bool.not_eq_true]
      intro hblank
      obtain ⟨range, hrange, hin⟩ := exists_mem_of_covers hblank
      obtain ⟨r, hr, hfirst, hlast, -, rfl⟩ := exists_mem_of_smallLetter? hs
      have havoid := (caseRuns_avoid r hr range hrange).2
      have hpos := blankRanges_pos range hrange
      have hchar := toNat_ofNat_eq (c.toNat + r.shift).toNat
      dsimp only [Option.elim] at hin
      omega

/-- What stands for a character in lower case. -/
lemma lowerFrom_cons (afterCased : Bool) (c : Char) (s : List Char) :
    ∃ (next : Bool) (l : List Char), lowerFrom afterCased (c :: s) = l ++ lowerFrom next s ∧
      (isBlank c = true → l = [c]) ∧
      (isBlank c = false → l ≠ [] ∧ ∀ d ∈ l, isBlank d = false) := by
  refine ⟨_, _, rfl, fun hc => ?_, fun hc => ?_⟩
  · have hsigma : c ≠ 'Σ' := by
      rintro rfl
      exact absurd hc (by decide)
    rw [if_neg hsigma, lowerChar_of_isBlank hc]
  · split
    · refine ⟨by simp, fun d hd => ?_⟩
      rw [List.mem_singleton.1 hd]
      split <;> decide
    · refine ⟨?_, fun d hd => isBlank_lowerChar hc hd⟩
      unfold lowerChar
      split <;> simp

lemma length_wordsFrom_lowerFrom (afterCased : Bool) {read read' : List Char}
    (h : read' = [] ↔ read = []) (s : List Char) :
    (wordsFrom read' (lowerFrom afterCased s)).length = (wordsFrom read s).length := by
  have hclose : ∀ {r r' : List Char}, (r' = [] ↔ r = []) →
      (closeWord r').length = (closeWord r).length := by
    intro r r' hr
    by_cases hnil : r = []
    · rw [hnil, hr.2 hnil]
    · simp [closeWord, hnil, mt hr.1 hnil]
  induction s generalizing afterCased read read' with
  | nil => exact hclose h
  | cons c s ih =>
    obtain ⟨next, l, hl, hblank, hsolid⟩ := lowerFrom_cons afterCased c s
    rw [hl]
    cases hc : isBlank c with
    | true =>
      rw [hblank hc, List.singleton_append, wordsFrom_blank hc, wordsFrom_blank hc,
        List.length_append, List.length_append, hclose h, words, words, ih next Iff.rfl]
    | false =>
      obtain ⟨hne, hall⟩ := hsolid hc
      rw [wordsFrom_append_of_solid hall, wordsFrom_solid hc]
      exact ih next (by simp [hne])

/-- Lower case has as many words. -/
lemma length_words_lower (s : List Char) : (words (lower s)).length = (words s).length :=
  length_wordsFrom_lowerFrom false Iff.rfl s

end SqlMargin.Text
