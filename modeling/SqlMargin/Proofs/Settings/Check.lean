import SqlMargin.Indent.Line
import SqlMargin.Proofs.Outcome

/-! Which styles settings describe. A check succeeds exactly when every value is usable, and the
style holds the values one by one. -/
namespace SqlMargin

namespace Settings

/-- The values of settings are those of a style. -/
structure Describes (settings : Settings) (s : Style) : Prop where
  offset : settings.indentOffset = .int s.offset
  tabWidth : settings.tabWidth = .int s.tabWidth
  maxSize : settings.maxFileSize = .int s.maxSize
  maxSize_pos : 0 < s.maxSize
  debug : settings.debugLogging = .bool s.debug
  withTabs : settings.indentWithTabs = .bool s.withTabs
  blankLines : settings.indentBlankLines = .bool s.blankLines
  escapes : settings.backslashEscapes = .bool s.escapes
  keywords : ∃ ws, keywordEntries? settings.recognizedKeywords = some ws ∧
    s.keywords = wordSet (ws.map normalWord)
  isWord : ∀ w ∈ s.keywords, Text.isWord w.toList = true

lemma positive_eq_ok_iff {settings : Settings} {f : Field} {n : { n : Nat // 0 < n }} :
    settings.positive f = .ok n ↔ settings.get f = .int n.1 := by
  unfold positive
  constructor
  · intro h
    split at h
    · next m hm =>
      split at h
      · next hpos =>
        cases h
        rw [hm, Int.toNat_of_nonneg (by omega)]
      · cases h
    · cases h
  · intro h
    have hpos := n.2
    rw [h]
    simp [hpos]

lemma flag_eq_ok_iff {settings : Settings} {f : Field} {b : Bool} :
    settings.flag f = .ok b ↔ settings.get f = .bool b := by
  unfold flag
  constructor
  · intro h
    split at h
    · next hb =>
      cases h
      exact hb
    · cases h
  · intro h
    rw [h]

lemma checkWords_eq_ok_iff {ws : List String} {u : Unit} :
    checkWords ws = .ok u ↔ ∀ w ∈ ws, Text.isWord w.toList = true := by
  induction ws with
  | nil => simp [checkWords]
  | cons w ws ih =>
    rw [checkWords, List.forall_mem_cons, ← ih]
    split
    · next h => simp [h]
    · next h => simp [h]

lemma normalize_eq_ok_iff {settings n : Settings} :
    settings.normalize = .ok n ↔ ∃ ws, keywordEntries? settings.recognizedKeywords = some ws ∧
      n = { settings with recognizedKeywords := .words (wordSet (ws.map normalWord)) } := by
  unfold normalize
  cases keywordEntries? settings.recognizedKeywords with
  | none => simp
  | some ws => simp [eq_comm]

/-- A check gives the style that settings describe. -/
theorem check_eq_ok_iff {settings : Settings} {s : Style} :
    settings.check = .ok s ↔ settings.Describes s := by
  unfold check
  simp only [bind_eq_ok_iff, normalize_eq_ok_iff, positive_eq_ok_iff, flag_eq_ok_iff,
    checkWords_eq_ok_iff]
  constructor
  · rintro ⟨n, ⟨ws, hws, rfl⟩, offset, hoffset, tabWidth, htabWidth, maxSize, hmaxSize, debug, hdebug,
      withTabs, hwithTabs, blankLines, hblankLines, escapes, hescapes, _, hwords, ⟨⟩⟩
    exact ⟨hoffset, htabWidth, hmaxSize, maxSize.2, hdebug, hwithTabs, hblankLines, hescapes,
      ⟨ws, hws, rfl⟩, hwords⟩
  · rintro h
    obtain ⟨ws, hws, hkeywords⟩ := h.keywords
    refine ⟨_, ⟨ws, hws, rfl⟩, ⟨s.offset, s.offset_pos⟩, h.offset, ⟨s.tabWidth, s.tabWidth_pos⟩,
      h.tabWidth, ⟨s.maxSize, h.maxSize_pos⟩, h.maxSize, s.debug, h.debug, s.withTabs, h.withTabs,
      s.blankLines, h.blankLines, s.escapes, h.escapes, ⟨⟩, ?_, ?_⟩
    · simpa [keywordEntries?, ← hkeywords] using h.isWord
    · simp [keywordEntries?, ← hkeywords]
      rfl

theorem style_eq_ok_iff {settings : Settings} {s : Style} :
    settings.style = .ok s ↔ settings.Describes s := by
  rw [← check_eq_ok_iff, style]
  cases settings.check with
  | error p => exact ⟨nofun, nofun⟩
  | ok s' =>
    constructor
    · rintro ⟨⟩
      rfl
    · rintro ⟨⟩
      rfl

/-- Whether blank lines are indented is one value of a style, and no other hangs on it. -/
lemma style_set_indentBlankLines {settings : Settings} {s : Style} (hs : settings.style = .ok s)
    (b : Bool) :
    (settings.set .indentBlankLines (.bool b)).style = .ok { s with blankLines := b } :=
  style_eq_ok_iff.2 { style_eq_ok_iff.1 hs with blankLines := rfl }

end Settings
end SqlMargin
