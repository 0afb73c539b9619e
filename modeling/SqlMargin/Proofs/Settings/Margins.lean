import SqlMargin.Proofs.Settings.Check
import SqlMargin.Proofs.Text.Words
import SqlMargin.Proofs.Toml.Margins
import SqlMargin.Settings.Discovery

/-! Settings from tables that differ in margins. Margins can be part of the texts in a document, but
the only texts that settings are made of are keywords, and a keyword that can be used is one word,
whatever whitespace stands around it. So margins in a document make no difference to settings that
can be used. -/
namespace SqlMargin

/-- Numbers and truth values have no margins. -/
lemma Value.eq_int_of_flushLeft {v : Value} {n : Int} (h : v.flushLeft = (Value.int n).flushLeft) :
    v = .int n := by
  cases v <;> simp_all [Value.flushLeft]

lemma Value.eq_bool_of_flushLeft {v : Value} {b : Bool}
    (h : v.flushLeft = (Value.bool b).flushLeft) : v = .bool b := by
  cases v <;> simp_all [Value.flushLeft]

namespace Settings

/-! Keywords. -/

section Keywords

/-- The words that a keyword consists of. -/
def parts (w : String) : List (List Char) := Text.words w.toList

lemma length_parts_normalWord (w : String) : (parts (normalWord w)).length = (parts w).length := by
  unfold parts normalWord
  rw [String.toList_ofList, Text.length_words_lower, Text.words_trim]

lemma length_parts_of_isWord {w : String} (h : Text.isWord w.toList = true) :
    (parts w).length = 1 := by
  rw [parts, Text.words_of_isWord h, List.length_singleton]

/-- A keyword of one word is known by that word. -/
lemma normalWord_congr {w w' : String} (hone : (parts w).length = 1) (h : parts w = parts w') :
    normalWord w = normalWord w' := by
  obtain ⟨l, hl⟩ := List.length_eq_one_iff.1 hone
  have htrim : Text.trim w.toList = l := Text.trim_of_words hl
  have htrim' : Text.trim w'.toList = l := Text.trim_of_words (h.symm.trans hl)
  rw [normalWord, normalWord, htrim, htrim']

lemma map_normalWord_congr {ws ws' : List String} (hone : ∀ w ∈ ws, (parts w).length = 1)
    (h : ws.map parts = ws'.map parts) : ws.map normalWord = ws'.map normalWord := by
  induction ws generalizing ws' with
  | nil =>
    rw [List.map_nil, eq_comm, List.map_eq_nil_iff] at h
    rw [h]
  | cons w ws ih =>
    obtain ⟨w', rest, rfl, hw, hrest⟩ := List.map_eq_cons_iff.1 h.symm
    rw [List.forall_mem_cons] at hone
    rw [List.map_cons, List.map_cons, normalWord_congr hone.1 hw.symm, ih hone.2 hrest.symm]

/-- Keywords that are words once they are normalized are words all along. -/
lemma length_parts_of_normalized {ws : List String}
    (h : ∀ w ∈ wordSet (ws.map normalWord), (parts w).length = 1) :
    ∀ w ∈ ws, (parts w).length = 1 := by
  intro w hw
  rw [← length_parts_normalWord]
  exact h _ (mem_wordSet.2 (List.mem_map_of_mem hw))

lemma mapM_text?_flushLeft (items : List Value) :
    ((items.map Value.flushLeft).mapM Value.text?).map (List.map parts) =
      (items.mapM Value.text?).map (List.map parts) := by
  induction items with
  | nil => rfl
  | cons v items ih =>
    rw [List.map_cons, List.mapM_cons, List.mapM_cons]
    cases v with
    | text w =>
      have hparts : parts (String.ofList (SqlMargin.flushLeft w.toList)) = parts w := by
        rw [parts, String.toList_ofList, Text.words_flushLeft, parts]
      cases h : items.mapM Value.text? with
      | none =>
        rw [h, Option.map_none, Option.map_eq_none_iff] at ih
        simp [Value.flushLeft, Value.text?, ih]
      | some ws =>
        rw [h] at ih
        obtain ⟨ws', hws', hmap⟩ := Option.map_eq_some_iff.1 ih
        simp [Value.flushLeft, Value.text?, hws', hparts, hmap]
    | list items => rw [Value.flushLeft_list]; rfl
    | table entries => rw [Value.flushLeft_table]; rfl
    | _ => rfl

/-- Margins in a keyword setting leave the words of its keywords. -/
lemma keywordEntries?_flushLeft (v : Value) :
    (keywordEntries? v.flushLeft).map (List.map parts) =
      (keywordEntries? v).map (List.map parts) := by
  cases v with
  | list items =>
    rw [Value.flushLeft_list]
    exact mapM_text?_flushLeft items
  | table entries =>
    rw [Value.flushLeft_table]
    simp [keywordEntries?, Toml.Entries.flushLeft, Function.comp_def, Value.flushEntry]
  | _ => rfl

end Keywords

/-! What is read from a document. -/

section Document
open Toml (Entries)

/-- Settings with all texts in them flush left. -/
def flushLeft (s : Settings) : Settings where
  indentOffset := s.indentOffset.flushLeft
  tabWidth := s.tabWidth.flushLeft
  indentWithTabs := s.indentWithTabs.flushLeft
  indentBlankLines := s.indentBlankLines.flushLeft
  recognizedKeywords := s.recognizedKeywords.flushLeft
  backslashEscapes := s.backslashEscapes.flushLeft
  debugLogging := s.debugLogging.flushLeft
  maxFileSize := s.maxFileSize.flushLeft

lemma get_flushLeft (s : Settings) (f : Field) : s.flushLeft.get f = (s.get f).flushLeft := by
  cases f <;> rfl

lemma set_flushLeft (s : Settings) (f : Field) (v : Value) :
    s.flushLeft.set f v.flushLeft = (s.set f v).flushLeft := by
  cases f <;> rfl

lemma assign_flushLeft (s : Settings) (entries : Entries) :
    s.flushLeft.assign entries.flushLeft = (s.assign entries).map flushLeft := by
  induction entries generalizing s with
  | nil => rfl
  | cons e entries ih =>
    obtain ⟨name, v⟩ := e
    change s.flushLeft.assign ((name, v.flushLeft) :: Entries.flushLeft entries) = _
    rw [assign, assign]
    split
    · rfl
    · cases Field.ofName? name with
      | none => rfl
      | some f =>
        dsimp only
        rw [set_flushLeft, ih]

lemma valueAt?_flushLeft (v : Value) (keys : List String) :
    valueAt? v.flushLeft keys = (valueAt? v keys).map Value.flushLeft := by
  induction keys generalizing v with
  | nil => rfl
  | cons k keys ih =>
    have hget : v.flushLeft.get? k = (v.get? k).map Value.flushLeft := by
      cases v with
      | list items => rw [Value.flushLeft_list]; rfl
      | table entries => rw [Value.flushLeft_table]; exact Toml.lookup_flushLeft k entries
      | _ => rfl
    rw [valueAt?, valueAt?, hget]
    cases v.get? k with
    | none => rfl
    | some w => exact ih w

lemma ofTable_flushLeft (origin : String) (v : Value) :
    ofTable origin v.flushLeft = (ofTable origin v).map flushLeft := by
  cases v with
  | list items => rw [Value.flushLeft_list]; rfl
  | table entries =>
    rw [Value.flushLeft_table, ofTable, ofTable, ofEntries, ofEntries]
    have hassign := assign_flushLeft {} entries
    change ({} : Settings).assign (Entries.flushLeft entries) = _ at hassign
    rw [hassign]
    cases ({} : Settings).assign entries <;> rfl
  | _ => rfl

lemma inTables_flushLeft (doc : Entries) (path : Path) (tables : List (List String)) :
    inTables doc.flushLeft path tables =
      (inTables doc path tables).map (Option.map flushLeft) := by
  induction tables with
  | nil => rfl
  | cons keys rest ih =>
    rw [inTables, inTables, ← Value.flushLeft_table, valueAt?_flushLeft]
    cases valueAt? (.table doc) keys with
    | none => exact ih
    | some v =>
      dsimp only [Option.map_some]
      rw [ofTable_flushLeft]
      generalize ofTable _ v = settings
      cases settings <;> rfl

end Document

/-! Settings that are alike. -/

/-- Settings that differ at most in the margins of texts, and not even there in keywords of one word
each. -/
structure Alike (s s' : Settings) : Prop where
  others : ∀ f, f ≠ .recognizedKeywords → (s.get f).flushLeft = (s'.get f).flushLeft
  keywords : ∀ ws, keywordEntries? (s.get .recognizedKeywords) = some ws →
    (∀ w ∈ ws, (parts w).length = 1) →
      s'.get .recognizedKeywords = s.get .recognizedKeywords

lemma ext_get {s s' : Settings} (h : ∀ f, s.get f = s'.get f) : s = s' := by
  obtain ⟨a, b, c, d, e, f, g, i⟩ := s
  obtain rfl : a = _ := h .indentOffset
  obtain rfl : b = _ := h .tabWidth
  obtain rfl : c = _ := h .indentWithTabs
  obtain rfl : d = _ := h .indentBlankLines
  obtain rfl : e = _ := h .recognizedKeywords
  obtain rfl : f = _ := h .backslashEscapes
  obtain rfl : g = _ := h .debugLogging
  obtain rfl : i = _ := h .maxFileSize
  rfl

namespace Alike

variable {s s' n : Settings}

lemma refl (s : Settings) : s.Alike s := ⟨fun _ _ => rfl, fun _ _ _ => rfl⟩

/-- A value given to both. -/
lemma set (h : s.Alike s') (f : Field) (v : Value) : (s.set f v).Alike (s'.set f v) := by
  constructor
  · intro g hg
    rw [get_set, get_set]
    split
    · rfl
    · exact h.others g hg
  · intro ws hws hone
    rw [get_set] at hws
    rw [get_set, get_set]
    split
    · rfl
    · next hf =>
      rw [if_neg hf] at hws
      exact h.keywords ws hws hone

lemma assign (h : s.Alike s') (entries : List (String × Value)) :
    Agree Alike (s.assign entries) (s'.assign entries) := by
  induction entries generalizing s s' with
  | nil => exact .ok h
  | cons e entries ih =>
    obtain ⟨name, v⟩ := e
    rw [Settings.assign, Settings.assign]
    split
    · exact .error _
    · cases Field.ofName? name with
      | none => exact .error _
      | some f => exact ih (h.set f v)

lemma override (h : s.Alike s') (overrides : List (String × Value)) :
    Agree Alike (s.override overrides) (s'.override overrides) := by
  unfold Settings.override
  split
  · exact .error _
  · exact h.assign _

/-- Settings that differ in margins only become so once they are normalized. -/
lemma normalize (h : s.flushLeft = s'.flushLeft) : Agree Alike s.normalize s'.normalize := by
  have hparts := keywordEntries?_flushLeft (s.get .recognizedKeywords)
  have hothers : ∀ f, (s.get f).flushLeft = (s'.get f).flushLeft := fun f => by
    rw [← get_flushLeft, h, get_flushLeft]
  rw [hothers, keywordEntries?_flushLeft] at hparts
  unfold Settings.normalize
  change _ = (keywordEntries? s.recognizedKeywords).map _ at hparts
  change (keywordEntries? s'.recognizedKeywords).map _ = _ at hparts
  cases hws : keywordEntries? s.recognizedKeywords with
  | none =>
    rw [hws, Option.map_none, Option.map_eq_none_iff] at hparts
    rw [hparts]
    exact .error _
  | some ws =>
    rw [hws] at hparts
    obtain ⟨ws', hws', hmap⟩ := Option.map_eq_some_iff.1 hparts
    rw [hws']
    refine .ok ⟨fun f hf => ?_, fun all hall hone => ?_⟩
    · change ((s.set .recognizedKeywords _).get f).flushLeft =
        ((s'.set .recognizedKeywords _).get f).flushLeft
      rw [get_set, get_set, if_neg hf, if_neg hf, hothers]
    · have hset : all = wordSet (ws.map normalWord) := (Option.some.inj hall).symm
      subst hset
      have hsame := map_normalWord_congr (length_parts_of_normalized hone) hmap.symm
      change Value.words _ = Value.words _
      rw [hsame]

lemma get_eq (h : s.Alike s') {f : Field} {v : Value} (hf : f ≠ .recognizedKeywords)
    (hs : s.get f = v) (hv : ∀ {u : Value}, u.flushLeft = v.flushLeft → u = v) :
    s'.get f = s.get f := by
  rw [hs]
  apply hv
  rw [← h.others f hf, hs]

/-- Where the first settings can be used, the second ones are the same. -/
theorem eq_of_check (h : s.Alike s') (hn : s.normalize = .ok n) {style : Style}
    (hcheck : n.check = .ok style) : s' = s := by
  obtain ⟨ws, hws, rfl⟩ := normalize_eq_ok_iff.1 hn
  have hdescribes := check_eq_ok_iff.1 hcheck
  apply ext_get
  intro f
  cases f with
  | indentOffset => exact h.get_eq (by decide) hdescribes.offset Value.eq_int_of_flushLeft
  | tabWidth => exact h.get_eq (by decide) hdescribes.tabWidth Value.eq_int_of_flushLeft
  | indentWithTabs => exact h.get_eq (by decide) hdescribes.withTabs Value.eq_bool_of_flushLeft
  | indentBlankLines => exact h.get_eq (by decide) hdescribes.blankLines Value.eq_bool_of_flushLeft
  | recognizedKeywords =>
    apply h.keywords ws hws
    obtain ⟨all, hall, hkeywords⟩ := hdescribes.keywords
    obtain rfl := Option.some.inj hall
    -- The style has the keywords normalized twice.
    apply length_parts_of_normalized
    apply length_parts_of_normalized
    intro w hw
    exact length_parts_of_isWord (hdescribes.isWord w (hkeywords ▸ hw))
  | backslashEscapes => exact h.get_eq (by decide) hdescribes.escapes Value.eq_bool_of_flushLeft
  | debugLogging => exact h.get_eq (by decide) hdescribes.debug Value.eq_bool_of_flushLeft
  | maxFileSize => exact h.get_eq (by decide) hdescribes.maxSize Value.eq_int_of_flushLeft

end Alike

end Settings
end SqlMargin
