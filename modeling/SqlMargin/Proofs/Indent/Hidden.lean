import SqlMargin.Proofs.Indent.Outline
import SqlMargin.Proofs.Lexical.Hidden

/-! Lines with a hidden character, one that lies in a literal or a comment and takes no part in
ending it. None of the things a line is told by reads it: neither its first word, which has the
opener in it by then, nor a closer at its start, nor what it ends with in code. -/
namespace SqlMargin
open Lexical (State isInert HoldsOpener lineState scan)
open Outline (lineOf opens)

lemma isIndent_of_isInert {c : Char} (h : isInert c = true) : isIndent c = false := by
  cases hi : isIndent c with
  | false => rfl
  | true =>
    have hb := Text.isBlank_of_isIndent hi
    rw [((Lexical.isInert_iff c).1 h).1] at hb
    cases hb

lemma dropWhile_append_cons {α : Type} {f : α → Bool} {x : α} (hx : f x = false) (p q : List α) :
    (p ++ x :: q).dropWhile f = p.dropWhile f ++ x :: q := by
  rw [List.dropWhile_append]
  cases h : (p.dropWhile f).isEmpty with
  | false => rfl
  | true =>
    rw [List.isEmpty_iff] at h
    simp [h, hx]

namespace Text

lemma trimRight_append_cons {x : Char} (hx : isBlank x = false) (p q : List Char) :
    trimRight (p ++ x :: q) = p ++ x :: trimRight q := by
  have hrev : (p ++ x :: q).reverse = q.reverse ++ x :: p.reverse := by simp
  unfold trimRight
  rw [hrev, dropWhile_append_cons hx]
  simp

@[simp] lemma trimLeft_contentOf (l : List Char) : trimLeft (contentOf l) = trimLeft l := by
  have hm : ∀ c ∈ marginOf l, isBlank c = true := fun c hc =>
    isBlank_of_isIndent (List.all_eq_true.1 List.all_takeWhile c hc)
  have ht : trimLeft (marginOf l ++ contentOf l) = trimLeft (contentOf l) :=
    List.dropWhile_append_of_pos hm
  rw [← ht, marginOf_append_contentOf]

end Text

/-- What starts literals and comments is the same in lower case. -/
lemma holdsOpener_lower {w : List Char} (h : HoldsOpener w) : HoldsOpener (Text.lower w) := by
  obtain ⟨o, ho, hw⟩ := h
  refine ⟨o, ho, Text.infix_lower hw fun c hc => ?_⟩
  have hself : Lexical.openers.all (·.all fun c => decide (Text.LowersTo c c)) = true := by decide
  have hc := List.all_eq_true.1 (List.all_eq_true.1 hself o ho) c hc
  exact of_decide_eq_true hc

/-- On a line that starts in state `st`, what follows `p` lies in a literal or a comment. -/
structure Shields (e : Bool) (st : State) (p : List Char) : Prop where
  natural : st.Natural
  literal : (scan e st p).isLiteral = true

namespace Shields

variable {e : Bool} {st : State} {p q : List Char} {x d : Char}

lemma scan_eq (h : Shields e st p) (hx : isInert x = true) (hd : isInert d = true)
    (q : List Char) : scan e st (p ++ x :: q) = scan e st (p ++ d :: q) := by
  rw [Lexical.scan_hidden e h.natural p q hx h.literal,
    Lexical.scan_hidden e h.natural p q hd h.literal]

/-- On a line that starts in code, something before the character opened the literal. -/
lemma holdsOpener_trimLeft (h : Shields e st p) (hcode : st.isLiteral = false) :
    HoldsOpener (Text.trimLeft p) := by
  apply Lexical.holdsOpener_of_isLiteral e hcode
  have hblank : ∀ c ∈ p.takeWhile Text.isBlank, Text.isBlank c = true :=
    List.all_eq_true.1 List.all_takeWhile
  have hcontext : st.context ≠ .lineComment := by
    intro hc
    simp [State.isLiteral, hc] at hcode
  have hs := Lexical.scan_blank_append h.natural hcontext e _ (Text.trimLeft p) hblank
  have hp : p.takeWhile Text.isBlank ++ Text.trimLeft p = p := List.takeWhile_append_dropWhile
  rw [hp] at hs
  rw [← hs]
  exact h.literal

lemma holdsOpener_contentOf (h : Shields e st p) (hcode : st.isLiteral = false) :
    HoldsOpener (contentOf p) := by
  apply (h.holdsOpener_trimLeft hcode).mono
  rw [← Text.trimLeft_contentOf]
  exact (List.dropWhile_suffix _).isInfix

/-- A word with the character in it has the opener in it, too, and is no keyword. -/
lemma leads_eq (h : Shields e st p) (hcode : st.isLiteral = false) {keywords : List String}
    (hk : ∀ w ∈ keywords, ¬ HoldsOpener w.toList) (hx : isInert x = true) (hd : isInert d = true)
    (q : List Char) :
    Outline.leads keywords (contentOf (p ++ x :: q)) =
      Outline.leads keywords (contentOf (p ++ d :: q)) := by
  have hword : ∀ {y : Char}, isInert y = true → Text.firstWord (contentOf (p ++ y :: q)) =
      (Text.trimLeft p ++ y :: q).takeWhile fun c => !Text.isBlank c := by
    intro y hy
    have hb := ((Lexical.isInert_iff y).1 hy).1
    rw [Text.firstWord, Text.trimLeft_contentOf, Text.trimLeft, dropWhile_append_cons hb]
    rfl
  have hnone : ∀ {w : List Char}, Text.trimLeft p <+: w →
      keywords.contains (String.ofList (Text.lower w)) = false := by
    intro w hw
    rw [← Bool.not_eq_true, List.contains_iff_mem]
    intro hmem
    apply hk _ hmem
    rw [String.toList_ofList]
    exact holdsOpener_lower ((h.holdsOpener_trimLeft hcode).mono hw.isInfix)
  unfold Outline.leads
  rw [hword hx, hword hd, List.takeWhile_append, List.takeWhile_append]
  split
  · rw [hnone (List.prefix_append _ _), hnone (List.prefix_append _ _)]
  · rfl

end Shields

/-- What a closer is told by lies before anything that an opener precedes. -/
lemma startsCloser_append {p : List Char} (h : HoldsOpener p) (y : List Char) :
    startsCloser (p ++ y) = startsCloser p := by
  match p with
  | [] => exact absurd h (by decide)
  | [c] =>
    -- An opener of one character is a quote, which closes nothing, or it is a closer itself.
    have hc : c = '\x27' ∨ c = '"' ∨ c = '\x60' ∨ c = '#' := by
      obtain ⟨o, ho, hi⟩ := h
      have hpos := (by decide : ∀ o ∈ Lexical.openers, 1 ≤ o.length) o ho
      obtain rfl := hi.eq_of_length (Nat.le_antisymm hi.length_le hpos)
      simpa [Lexical.openers] using ho
    rcases hc with rfl | rfl | rfl | rfl <;> rfl
  | c :: c' :: p => simp [startsCloser, List.isPrefixOf]

/-- Letters that lower to plain ones are plain. -/
lemma notMem_special_of_spelled {z w : List Char} (h : List.Forall₂ Text.LowersTo z w)
    (hw : ∀ v ∈ w, v ∉ Lexical.special) : ∀ c ∈ z, c ∉ Lexical.special := by
  induction h with
  | nil => simp
  | @cons c v z w hc _ ih =>
    rw [List.forall_mem_cons] at hw ⊢
    refine ⟨fun hs => hw.1 ?_, ih hw.2⟩
    have hself : Lexical.special.all (fun c => Text.lowerChar c == [c]) = true := by decide
    have hcv : v = c := by simpa [hc.2] using List.all_eq_true.1 hself c hs
    rwa [hcv]

/-- What asks for a deeper line opens no literal before its last character. -/
lemma Asks.notMem_special {a z w : List Char} {x : Char} {q : List Char} (h : Asks a z)
    (hz : z = w ++ x :: q) : ∀ c ∈ w, c ∉ Lexical.special := by
  rcases h with rfl | ⟨hthen, _⟩
  · have hw : w = [] := by
      have hlen := congrArg List.length hz
      rw [List.length_append] at hlen
      apply List.length_eq_zero_iff.1
      simp only [List.length_cons, List.length_nil] at hlen
      omega
    simp [hw]
  · intro c hc
    apply notMem_special_of_spelled hthen (by simp [Lexical.special])
    rw [hz]
    exact List.mem_append_left _ hc

/-- A line that asks for a deeper one, in code, ends so. -/
lemma opens_iff (e : Bool) (ls : List (List Char)) (j : Nat) :
    opens e ls j = true ↔ ∃ a z, Text.trimRight (lineOf ls j) = a ++ z ∧ Asks a z ∧
      (scan e (lineState e ls j) a).isLiteral = false := by
  have htake : ∀ {a z : List Char}, Text.trimRight (lineOf ls j) = a ++ z →
      (lineOf ls j).take a.length = a := by
    intro a z h
    have hp := (h ▸ List.prefix_append a z).trans (Text.trimRight_isPrefix (lineOf ls j))
    exact (List.prefix_iff_eq_take.1 hp).symm
  unfold opens
  rw [Option.any_eq_true]
  constructor
  · rintro ⟨k, hk, hcode⟩
    obtain ⟨a, z, hz, hasks, rfl⟩ := continuation?_eq_some_iff.1 hk
    rw [htake hz] at hcode
    exact ⟨a, z, hz, hasks, by simpa using hcode⟩
  · rintro ⟨a, z, hz, hasks, hcode⟩
    refine ⟨a.length, continuation?_eq_some_iff.2 ⟨a, z, hz, hasks, rfl⟩, ?_⟩
    rw [htake hz, hcode]
    rfl

/-- The end of a line in code lies after the hidden character, and does not touch it. -/
lemma Shields.asks {e : Bool} {st : State} {p q a z : List Char} {x d : Char}
    (h : Shields e st p) (hx : isInert x = true) (hd : isInert d = true)
    (hz : p ++ x :: q = a ++ z) (hasks : Asks a z) (hcode : (scan e st a).isLiteral = false) :
    ∃ a', p ++ d :: q = a' ++ z ∧ Asks a' z ∧ (scan e st a').isLiteral = false := by
  have hp : ∀ {t : State}, t = scan e st p → t.isLiteral ≠ false := by
    rintro t rfl hf
    rw [h.literal] at hf
    cases hf
  rcases List.append_eq_append_iff.1 hz with ⟨w, rfl, hw⟩ | ⟨w, rfl, hw⟩
  · cases w with
    | nil => exact absurd hcode (hp (by rw [List.append_nil]))
    | cons y w =>
      obtain ⟨rfl, rfl⟩ := List.cons.inj hw
      refine ⟨p ++ d :: w, by simp, ?_, by rwa [← h.scan_eq hx hd]⟩
      rcases hasks with rfl | ⟨hthen, hword⟩
      · exact .inl rfl
      · refine .inr ⟨hthen, ?_⟩
        -- Were the character right before the word, the word would still lie in the literal.
        cases w with
        | nil =>
          apply absurd hcode (hp _)
          rw [Lexical.scan_hidden e h.natural p [] hx h.literal, Lexical.scan_nil]
        | cons c w => simpa using hword
  · apply absurd hcode (hp _)
    exact (Lexical.scan_append_plain e h.natural a w (hasks.notMem_special hw)).symm

end SqlMargin
