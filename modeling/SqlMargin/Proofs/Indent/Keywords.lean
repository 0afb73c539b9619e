import SqlMargin.Proofs.Buffer.History
import SqlMargin.Proofs.Indent.Hidden
import SqlMargin.Proofs.Indent.Level
import SqlMargin.Proofs.Lexical.Tokenization
import SqlMargin.Proofs.Settings.Margins

/-! Keywords as they are given and as they are found. Margins are spaces and tabs, words are cut at
any whitespace, and keywords are trimmed and put in lower case before they are checked; on a line of
code it all comes to whether the first word is one of the keywords given, in any case. -/
namespace SqlMargin
open Edit (perform)
open Lexical (lineState scan)
open Outline (lineOf)

namespace Document

/-- Where the first character of line `i` stands that is not whitespace. -/
def wordStart (d : Document) (i : Nat) : Nat :=
  d.lineStart i + ((d.line i).takeWhile Text.isBlank).length

/-- Whitespace at the start of a line moves no state, be it part of the margin or not. -/
lemma scan_take_wordStart (d : Document) (e : Bool) {i : Nat} (hi : i < d.lineCount) :
    scan e {} (d.text.take (d.wordStart i)) = lineState e d.lines i := by
  have hprefix : (d.line i).takeWhile Text.isBlank <+: d.line i := List.takeWhile_prefix _
  have hblank : ∀ c ∈ (d.line i).takeWhile Text.isBlank, Text.isBlank c = true :=
    List.all_eq_true.1 List.all_takeWhile
  have hcontext : (lineState e d.lines i).context ≠ .lineComment :=
    Lexical.context_afterLines_ne e (by decide) _
  have hscan := Lexical.scan_blank_append (Lexical.natural_lineState e d.lines i) hcontext e
    ((d.line i).takeWhile Text.isBlank) [] hblank
  rw [List.append_nil, Lexical.scan_nil] at hscan
  rw [wordStart, d.lineStart_eq i hi, d.scan_take_text e i _ hi hprefix.length_le,
    ← List.prefix_iff_eq_take.1 hprefix, hscan]

end Document

namespace Text

@[simp] lemma firstWord_contentOf (l : List Char) : firstWord (contentOf l) = firstWord l := by
  rw [firstWord, trimLeft_contentOf, firstWord]

/-- A word after a margin, that whitespace or nothing follows, is the first word of a line. -/
lemma head?_words_line {m v rest w : List Char} (hm : ∀ c ∈ m, isBlank c = true)
    (hv : words v = [w]) (hrest : rest.head?.all isBlank = true) :
    (words (m ++ v ++ rest)).head? = some w := by
  have hmargin : words (m ++ v) = [w] := by
    rw [← hv]
    induction m with
    | nil => rfl
    | cons c m ih =>
      rw [List.forall_mem_cons] at hm
      rw [List.cons_append, words_cons_blank hm.1, ih hm.2]
  cases rest with
  | nil => rw [List.append_nil, hmargin, List.head?_cons]
  | cons c rest =>
    have hc : isBlank c = true := by simpa using hrest
    rw [words, wordsFrom_append_blank hc, ← words, hmargin]
    rfl

end Text

namespace Settings

/-- The first word of a text is a keyword when one of those given is the same, in whatever case and
with whatever whitespace around it. -/
lemma leads_wordSet (ws : List String) (l : List Char) :
    Outline.leads (wordSet (ws.map normalWord)) l = true ↔
      ∃ w ∈ ws, Text.lower (Text.firstWord l) = Text.lower (Text.trim w.toList) := by
  have hword : ∀ w : String, normalWord w = String.ofList (Text.lower (Text.firstWord l)) ↔
      Text.lower (Text.firstWord l) = Text.lower (Text.trim w.toList) := fun _ =>
    String.ofList_inj.trans eq_comm
  rw [Outline.leads, List.contains_iff_mem, mem_wordSet, List.mem_map]
  simp only [hword]

/-- Whether a line starts with a keyword, read off the text. -/
lemma hasKeyword_iff {s : Style} {ws : List String} (hs : s.keywords = wordSet (ws.map normalWord))
    (d : Document) {i : Nat} (hi : i < d.lineCount) :
    Outline.hasKeyword s d.lines i = true ↔
      d.isBlank i = false ∧ (scan s.escapes {} (d.text.take (d.wordStart i))).context = .code ∧
        ∃ w ∈ ws, Text.lower (Text.firstWord (d.line i)) = Text.lower (Text.trim w.toList) := by
  have hcode : (scan s.escapes {} (d.text.take (d.wordStart i))).context = .code ↔
      (lineState s.escapes d.lines i).isLiteral = false := by
    rw [d.scan_take_wordStart s.escapes hi]
    simp [Lexical.State.isLiteral]
  have hline : lineOf d.lines i = d.line i := rfl
  rw [hcode, ← Text.firstWord_contentOf, ← leads_wordSet, ← hs]
  unfold Outline.hasKeyword Outline.code? Document.isBlank
  rw [hline]
  cases Text.allBlank (d.line i) <;> cases (lineState s.escapes d.lines i).isLiteral <;> simp

/-- Keywords of settings that can be used are found as they were given, and nothing else is. A
classifier that was opened and not closed, whatever was done to its buffer, says of a line that it
starts with a keyword exactly when its first word stands in code and is one of those given, but for
whitespace around it and case; so every one of them is found where it is written at the start of a
line, with whitespace or nothing after it. -/
theorem keywords_as_given [Memory] (settings : Settings) (s : Style) (hs : settings.check = .ok s) :
    ∃ (ws : List String) (n : Settings),
      keywordEntries? settings.recognizedKeywords = some ws ∧ settings.normalize = .ok n ∧
      ∀ (t : List Char) (cursor : Int) (calls : List Buffer.Call) (k : Nat) (e : Bool),
        (Buffer.ofText t cursor).Opened calls k e →
        let b := (Buffer.ofText t cursor).after calls
        let d := b.document
        ∀ i < d.lineCount, ∃ r,
          (perform b ((Lexer.classifier k).startsWithKeyword n.recognizedKeywords.holds
            (d.lineStart i))).1 = .ok r ∧
          (r = true ↔ d.isBlank i = false ∧
            (scan e {} (d.text.take (d.wordStart i))).context = .code ∧
            ∃ w ∈ ws, Text.lower (Text.firstWord (d.line i)) = Text.lower (Text.trim w.toList)) ∧
          ∀ w ∈ ws, ∀ m v rest : List Char, d.line i = m ++ v ++ rest →
            (∀ c ∈ m, isIndent c = true) → Text.trim v = Text.trim w.toList →
            rest.head?.all Text.isBlank = true →
            (scan e {} (d.text.take (d.wordStart i))).context = .code → r = true := by
  have hdescribes := check_eq_ok_iff.1 hs
  obtain ⟨ws, hws, hkeywords⟩ := hdescribes.keywords
  refine ⟨ws, _, hws, normalize_eq_ok_iff.2 ⟨ws, hws, rfl⟩, fun t cursor calls k e h => ?_⟩
  intro b d i hi
  -- The style reads backslashes as the classifier does; of its values only the keywords matter.
  have hshows : b.Shows k ({ s with escapes := e } : Style).escapes d.lines :=
    ⟨Buffer.serves_of_opened (Buffer.sound_ofText t cursor) h, rfl⟩
  have hat : d.lineAt (d.lineStart i : Nat) = i := by
    rw [d.lineStart_eq i hi]
    exact d.lineAt_extent hi
  obtain ⟨_, hanswer, _⟩ := hshows.answers_startsWithKeyword hat
  have hholds : ({ s with escapes := e } : Style).reading.keyword =
      (Value.words (wordSet (ws.map normalWord))).holds := by
    rw [← hkeywords]
    rfl
  rw [hholds] at hanswer
  have hiff := hasKeyword_iff (s := { s with escapes := e }) hkeywords d hi
  refine ⟨_, congrArg Prod.fst hanswer, hiff, fun w hw m v rest hline hm hv hrest hcode => ?_⟩
  have hone : (parts w).length = 1 := by
    refine length_parts_of_normalized (fun w hw => length_parts_of_isWord ?_) w hw
    exact hdescribes.isWord w (hkeywords ▸ hw)
  obtain ⟨x, hx⟩ := List.length_eq_one_iff.1 hone
  have hvx : Text.words v = [x] := by
    rw [← Text.words_trim, hv, Text.words_trim]
    exact hx
  have hfirst := Text.head?_words_line (fun c hc => Text.isBlank_of_isIndent (hm c hc)) hvx hrest
  rw [← hline] at hfirst
  have hblank : d.isBlank i = false := by
    cases hb : d.isBlank i with
    | false => rfl
    | true =>
      rw [Text.words, Text.wordsFrom_allBlank hb] at hfirst
      cases hfirst
  refine hiff.2 ⟨hblank, hcode, w, hw, congrArg Text.lower ?_⟩
  rw [Text.head?_words hblank, Option.some_inj] at hfirst
  rw [hfirst, Text.trim_of_words hx]

section Ample

attribute [local instance] Memory.ample

/-- A keyword given with whitespace around it, whose first letter has a longer lower case, at the
start of a line after a literal; the classifier had seen the text without the quote that ends it. -/
theorem keywords_as_given_dotted :
    let settings : Settings :=
      { recognizedKeywords := .list [.text "SELECT", .text "\u00a0\u0130f\n"] }
    let b := (Buffer.ofText "\x27a\n\t\u0130f\u3000x".toList 0).after
      [.openClassifier true, .stateAt 0 5, .document (.insert 2 ['\x27'])]
    ∃ s n, settings.check = .ok s ∧ settings.normalize = .ok n ∧
      (perform b ((Lexer.classifier 0).startsWithKeyword n.recognizedKeywords.holds
        (b.document.lineStart 1))).1 = .ok true := by
  intro settings b
  obtain ⟨s, hs⟩ : ∃ s, settings.check = .ok s := ⟨_, rfl⟩
  obtain ⟨ws, n, hws, hn, hall⟩ := keywords_as_given settings s hs
  obtain ⟨r, hr, _, hfound⟩ := hall "\x27a\n\t\u0130f\u3000x".toList 0
    [.openClassifier true, .stateAt 0 5, .document (.insert 2 ['\x27'])] 0 true
    ⟨[], _, rfl, rfl, by simp⟩ 1 (by decide +kernel)
  refine ⟨s, n, hs, hn, hr.trans (congrArg Except.ok ?_)⟩
  obtain rfl := Option.some.inj hws
  refine hfound "\u00a0\u0130f\n" (by simp) "\t".toList "\u0130f".toList "\u3000x".toList ?_
    (by simp [isIndent]) ?_ ?_ ?_
  all_goals decide +kernel

end Ample

end Settings
end SqlMargin
