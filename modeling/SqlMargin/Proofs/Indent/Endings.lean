import SqlMargin.Proofs.Buffer.History
import SqlMargin.Proofs.Indent.Hidden
import SqlMargin.Proofs.Indent.Level

/-! What asks for a deeper line, in a text read as a whole. The lines above are looked at one by
one, the blank ones passed over and the last one trimmed and put in lower case; it comes to the same
to take the whole text before the line, trim it, and see whether it ends with an opening parenthesis
or with THEN. -/
namespace SqlMargin
open Edit (perform)
open Lexical (lineState scan)
open Outline (lineOf above? opens)

namespace Text

/-- In the plain alphabet lower case is that of single letters. -/
lemma lowerChar_of_lt {c : Char} (h : c.toNat < 128) : lowerChar c = [c.toLower] := by
  have hdot : c ≠ '\u0130' := by
    rintro rfl
    exact absurd h (by decide)
  have hcapital : smallLetter? caseRuns c.toNat =
      if 65 ≤ c.toNat ∧ c.toNat ≤ 90 then some (c.toNat + 32) else none := by
    rw [caseRuns, smallLetter?, smallLetter?]
    split_ifs <;> simp_all <;> omega
  have hplain : ∀ n < 128, (Char.ofNat n).toLower =
      if 65 ≤ n ∧ n ≤ 90 then Char.ofNat (n + 32) else Char.ofNat n := by decide +kernel
  have htoLower := hplain c.toNat h
  rw [Char.ofNat_toNat] at htoLower
  rw [lowerChar, if_neg hdot, hcapital, htoLower]
  split <;> rfl

/-- The letters of THEN have two spellings each. Among the letters further on some have small
letters of the plain alphabet, as the Kelvin sign has, but none of these. -/
lemma lowersTo_iff_toLower {c v : Char} (hv : v ∈ ['t', 'h', 'e', 'n']) :
    LowersTo c v ↔ c.toLower = v := by
  by_cases hc : c.toNat < 128
  · have hsigma : c ≠ 'Σ' := by
      rintro rfl
      exact absurd hc (by decide)
    rw [LowersTo, lowerChar_of_lt hc, List.singleton_inj]
    exact and_iff_right hsigma
  have hcode : v.toNat ∈ [0x74, 0x68, 0x65, 0x6E] := List.mem_map_of_mem hv
  have hbound : 0 < v.toNat ∧ v.toNat < 128 := by
    simp only [List.mem_cons, List.not_mem_nil, or_false] at hcode
    omega
  have hne : c ≠ v := by
    rintro rfl
    exact hc hbound.2
  have hruns : ∀ r ∈ caseRuns, 128 ≤ r.last → ∀ n : Nat, n ∈ [0x74, 0x68, 0x65, 0x6E] →
      r.last + r.shift < n ∨ n < r.first + r.shift := by decide +kernel
  constructor
  · rintro ⟨_, hl⟩
    exfalso
    unfold lowerChar at hl
    split at hl
    · cases hl
    · cases hs : smallLetter? caseRuns c.toNat with
      | none =>
        rw [hs] at hl
        exact hne (List.singleton_inj.1 hl)
      | some m =>
        rw [hs] at hl
        obtain ⟨r, hr, hfirst, hlast, -, hm⟩ := exists_mem_of_smallLetter? hs
        have hchar := toNat_ofNat_eq m
        have havoid := hruns r hr (by omega) v.toNat hcode
        rw [show Char.ofNat m = v from List.singleton_inj.1 hl] at hchar
        omega
  · intro hl
    have hself : c.toLower = c := by
      apply dif_neg
      rintro ⟨_, hle⟩
      have hle : c.toNat ≤ 90 := hle
      omega
    exact absurd (hself.symm.trans hl) hne

/-- So does the whole word. -/
lemma spelled_iff_map_toLower {z w : List Char} (hw : ∀ v ∈ w, v ∈ ['t', 'h', 'e', 'n']) :
    List.Forall₂ LowersTo z w ↔ z.map Char.toLower = w := by
  induction w generalizing z with
  | nil => rw [List.forall₂_nil_right_iff, List.map_eq_nil_iff]
  | cons v w ih =>
    rw [List.forall_mem_cons] at hw
    rw [List.forall₂_cons_right_iff, List.map_eq_cons_iff]
    simp only [lowersTo_iff_toLower hw.1, ih hw.2]
    constructor
    · rintro ⟨c, r, hc, hr, rfl⟩
      exact ⟨c, r, rfl, hc, hr⟩
    · rintro ⟨c, r, rfl, hc, hr⟩
      exact ⟨c, r, hc, hr, rfl⟩

/-- Trimming the lines above a line leaves nothing, or it ends with the last line that is not blank,
trimmed. -/
lemma trimRight_ended_take (ls : List (List Char)) {i : Nat} (hi : i ≤ ls.length) :
    trimRight (ended (ls.take i)) =
      (above? ls i).elim [] fun j => ended (ls.take j) ++ trimRight (lineOf ls j) := by
  induction i with
  | zero => rfl
  | succ i ih =>
    have hlt : i < ls.length := hi
    have htake : ended (ls.take (i + 1)) = ended (ls.take i) ++ (lineOf ls i ++ ['\n']) := by
      rw [List.take_add_one, ended, List.flatMap_append, lineOf, List.getElem?_eq_getElem hlt]
      simp [ended]
    have hfeed : allBlank ['\n'] = true := by decide
    rw [htake, Outline.above?_succ]
    cases hb : allBlank (lineOf ls i) with
    | true =>
      have hblank : allBlank (lineOf ls i ++ ['\n']) = true := by rw [allBlank_append, hb, hfeed]; rfl
      rw [trimRight_append_allBlank hblank, ih (Nat.le_of_lt hlt)]
      rfl
    | false =>
      have hcode : allBlank (lineOf ls i ++ ['\n']) = false := by rw [allBlank_append, hb]; rfl
      rw [trimRight_append _ _ hcode, trimRight_append_allBlank hfeed]
      rfl

end Text

/-- What asks for a deeper line holds no line feed. -/
lemma Asks.newline_notMem {a z : List Char} (h : Asks a z) : '\n' ∉ z := by
  intro hmem
  rcases h with rfl | ⟨hthen, _⟩
  · revert hmem
    decide
  · exact notMem_special_of_spelled hthen (by simp [Lexical.special]) _ hmem (by decide)

/-- A line feed before a text is no more than its start. -/
lemma Asks.append_iff {x a z : List Char} (hx : x.getLast?.any Text.isWordChar = false) :
    Asks (x ++ a) z ↔ Asks a z := by
  have hlast : (x ++ a).getLast?.any Text.isWordChar = a.getLast?.any Text.isWordChar := by
    rcases List.eq_nil_or_concat a with rfl | ⟨a, c, rfl⟩
    · rw [List.append_nil, hx]
      rfl
    · rw [List.concat_eq_append, ← List.append_assoc, List.getLast?_concat, List.getLast?_concat]
  unfold Asks
  rw [hlast]

/-- Lines end with line feeds, so what ends a text after some lines ends it by itself. -/
lemma asks_ended_append (e : Bool) (ls : List (List Char)) (t : List Char) :
    (∃ a z, Text.ended ls ++ t = a ++ z ∧ Asks a z ∧ (scan e {} a).isLiteral = false) ↔
      ∃ a z, t = a ++ z ∧ Asks a z ∧
        (scan e (Lexical.afterLines e {} ls) a).isLiteral = false := by
  have hended : Text.ended ls = [] ∨ ∃ x, Text.ended ls = x ++ ['\n'] := by
    rcases List.eq_nil_or_concat ls with rfl | ⟨ls, l, rfl⟩
    · exact .inl rfl
    · exact .inr ⟨Text.ended ls ++ l, by simp [Text.ended]⟩
  have hstart : (Text.ended ls).getLast?.any Text.isWordChar = false := by
    rcases hended with h | ⟨x, h⟩
    · rw [h]
      rfl
    · rw [h, List.getLast?_concat]
      decide
  constructor
  · rintro ⟨a, z, hz, hasks, hcode⟩
    rcases List.append_eq_append_iff.1 hz with ⟨w, rfl, rfl⟩ | ⟨w, hw, rfl⟩
    · rw [Lexical.scan_ended_append] at hcode
      exact ⟨w, z, rfl, (Asks.append_iff hstart).1 hasks, hcode⟩
    · rcases List.eq_nil_or_concat w with rfl | ⟨w, c, rfl⟩
      · rw [List.append_nil] at hw
        subst hw
        rw [← List.append_nil (Text.ended ls), Lexical.scan_ended_append] at hcode
        rw [← List.append_nil (Text.ended ls)] at hasks
        exact ⟨[], t, rfl, (Asks.append_iff hstart).1 hasks, hcode⟩
      · -- What asks would begin in the lines and go on over their last line feed.
        apply absurd _ hasks.newline_notMem
        rcases hended with h | ⟨x, h⟩
        · simp [h] at hw
        · rw [h, List.concat_eq_append, ← List.append_assoc] at hw
          simp [← (List.append_inj' hw rfl).2]
  · rintro ⟨a, z, rfl, hasks, hcode⟩
    refine ⟨Text.ended ls ++ a, z, by rw [List.append_assoc], (Asks.append_iff hstart).2 hasks, ?_⟩
    rwa [Lexical.scan_ended_append]

/-- The last line above that is not blank asks for a deeper line exactly when the whole text above
does. -/
lemma any_opens_iff (e : Bool) (ls : List (List Char)) {i : Nat} (hi : i ≤ ls.length) :
    (above? ls i).any (opens e ls) = true ↔
      ∃ a z, Text.trimRight (Text.ended (ls.take i)) = a ++ z ∧ Asks a z ∧
        (scan e {} a).isLiteral = false := by
  rw [Text.trimRight_ended_take ls hi]
  cases above? ls i with
  | none =>
    refine ⟨fun h => absurd h Bool.false_ne_true, ?_⟩
    rintro ⟨a, z, hz, hasks, _⟩
    obtain ⟨rfl, rfl⟩ := List.append_eq_nil_iff.1 hz.symm
    rcases hasks with hparen | ⟨hthen, _⟩
    · cases hparen
    · cases hthen
  | some j => exact (opens_iff e ls j).trans (asks_ended_append e _ _).symm

namespace Buffer

/-- Whether a line comes after a continuation, asked of a classifier that was opened and not closed,
whatever was done to its buffer: the text before the line, without the whitespace at its end, ends
in code with an opening parenthesis, or with THEN in any case and no identifier before it. -/
theorem endsWithContinuation_flat [Memory] (t : List Char) (cursor : Int) (calls : List Call)
    (k : Nat)
    (e : Bool) (h : (ofText t cursor).Opened calls k e) (i : Nat)
    (hi : i < ((ofText t cursor).after calls).document.lineCount) :
    let b := (ofText t cursor).after calls
    let u := Text.trimRight (b.document.text.take (b.document.lineStart i))
    ∃ r, (perform b ((Lexer.classifier k).endsWithContinuation i)).1 = .ok r ∧
      (r = true ↔
        (∃ a, u = a ++ ['('] ∧ (scan e {} a).context = .code) ∨
          ∃ a w, u = a ++ w ∧ w.map Char.toLower = ['t', 'h', 'e', 'n'] ∧
            a.getLast?.any Text.isWordChar = false ∧ (scan e {} a).context = .code) := by
  intro b u
  have hserves := serves_of_opened (sound_ofText t cursor) h
  have hshows : b.Shows k e b.document.lines := ⟨hserves, rfl⟩
  obtain ⟨_, hanswer, _⟩ := hshows.answers_endsWithContinuation hi
  refine ⟨_, congrArg Prod.fst hanswer, ?_⟩
  have htake := Text.take_joinLines b.document.lines i 0 hi (Nat.zero_le _)
  rw [Nat.add_zero, List.take_zero, List.append_nil] at htake
  have hu : u = Text.trimRight (Text.ended (b.document.lines.take i)) := by
    rw [← htake, ← Document.lineStart_eq _ _ hi]
    rfl
  have hcode : ∀ a, (scan e {} a).isLiteral = false ↔ (scan e {} a).context = .code := by
    simp [Lexical.State.isLiteral]
  rw [any_opens_iff e _ (Nat.le_of_lt hi), ← hu]
  simp only [hcode]
  constructor
  · rintro ⟨a, z, hz, rfl | ⟨hthen, hword⟩, ha⟩
    · exact .inl ⟨a, hz, ha⟩
    · exact .inr ⟨a, z, hz, (Text.spelled_iff_map_toLower (by simp)).1 hthen, hword, ha⟩
  · rintro (⟨a, hz, ha⟩ | ⟨a, z, hz, hthen, hword, ha⟩)
    · exact ⟨a, ['('], hz, .inl rfl, ha⟩
    · exact ⟨a, z, hz, .inr ⟨(Text.spelled_iff_map_toLower (by simp)).2 hthen, hword⟩, ha⟩

section Ample

attribute [local instance] Memory.ample

/-- THEN at the start of a line, after a line that ends in a letter whose lower case is longer, with
a line of other whitespace below it; the classifier had seen the text without the line. -/
theorem endsWithContinuation_flat_then :
    let b := (ofText "if \u0130\n\u00a0\t\nx".toList 0).after
      [.openClassifier false, .stateAt 0 6, .document (.insert 5 "Then \n".toList)]
    (perform b ((Lexer.classifier 0).endsWithContinuation 3)).1 = .ok true := by
  intro b
  obtain ⟨r, hr, hiff⟩ := endsWithContinuation_flat "if \u0130\n\u00a0\t\nx".toList 0
    [.openClassifier false, .stateAt 0 6, .document (.insert 5 "Then \n".toList)] 0 false
    ⟨[], _, rfl, rfl, by simp⟩ 3 (by decide +kernel)
  refine hr.trans (congrArg Except.ok (hiff.2 (.inr ⟨"if \u0130\n".toList, "Then".toList, ?_⟩)))
  refine ⟨?_, ?_, ?_, ?_⟩
  all_goals decide +kernel

end Ample

end Buffer
end SqlMargin
