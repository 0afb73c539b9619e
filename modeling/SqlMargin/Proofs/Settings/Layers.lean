import SqlMargin.Proofs.Settings.Malformed
import SqlMargin.Proofs.Settings.Margins
import SqlMargin.Proofs.Settings.Normalization
import SqlMargin.Proofs.Toml.Keys

/-! Layers of settings. What a caller says comes before what a table says, and that before the
default values. Keywords are normalized after each layer; it comes to the same to normalize them
once, at the end. -/
namespace SqlMargin

namespace Settings

/-! Values by name. -/

section Names

variable {entries overrides : List (String × Value)}

lemma ofName?_name (f : Field) : Field.ofName? f.name = some f := by cases f <;> decide

lemma name_injective : Function.Injective Field.name := by
  intro f g h
  have hf := ofName?_name f
  rw [h, ofName?_name] at hf
  exact (Option.some.inj hf).symm

lemma name_ne_of_forall {name : String} (h : ∀ f ∈ Field.all, f.name ≠ name) (f : Field) :
    f.name ≠ name := by
  apply h
  cases f <;> decide

/-- All names are those of settings. -/
def Known (entries : List (String × Value)) : Prop := ∀ e ∈ entries, ∃ f : Field, f.name = e.1

/-- No name is there twice. -/
def Once (entries : List (String × Value)) : Prop := (entries.map (·.1)).Nodup

lemma lookup_eq_none {name : String} (h : name ∉ entries.map (·.1)) :
    entries.lookup name = none := by
  rw [List.lookup_eq_none_iff]
  intro e he
  rw [bne_iff_ne]
  rintro rfl
  exact h (List.mem_map_of_mem he)

/-- Settings that are given by names they have, each once. -/
lemma exists_assign (hknown : Known entries) (honce : Once entries) (s : Settings) :
    ∃ s', s.assign entries = .ok s' ∧
      ∀ f, s'.get f = (entries.lookup f.name).getD (s.get f) := by
  induction entries generalizing s with
  | nil => exact ⟨s, rfl, fun _ => rfl⟩
  | cons e entries ih =>
    obtain ⟨name, value⟩ := e
    obtain ⟨⟨g, rfl : g.name = name⟩, hrest⟩ := List.forall_mem_cons.1 hknown
    obtain ⟨hfresh, honce⟩ := List.nodup_cons.1 honce
    obtain ⟨s', hs', hget⟩ := ih hrest honce (s.set g value)
    have hself : g.name ≠ "self" := name_ne_of_forall (by decide) g
    refine ⟨s', ?_, fun f => ?_⟩
    · rw [assign, if_neg hself, ofName?_name]
      exact hs'
    · rw [hget, get_set, List.lookup_cons]
      by_cases hf : f = g
      · rw [hf, lookup_eq_none hfresh, if_pos rfl, beq_self_eq_true]
        rfl
      · rw [if_neg hf, beq_eq_false_iff_ne.2 (name_injective.ne hf)]

lemma known_changes (h : Known overrides) : Known (changes overrides) :=
  fun o ho => h o (List.mem_of_mem_filter ho)

lemma once_changes (h : Once overrides) : Once (changes overrides) :=
  h.sublist (List.filter_sublist.map _)

/-- The overrides that say something. -/
lemma lookup_changes (honce : Once overrides) (name : String) :
    (changes overrides).lookup name = (overrides.lookup name).filter (!·.isNull) := by
  induction overrides with
  | nil => rfl
  | cons o overrides ih =>
    obtain ⟨k, value⟩ := o
    obtain ⟨hfresh, hrest⟩ := List.nodup_cons.1 honce
    specialize ih hrest
    unfold changes at ih ⊢
    rw [List.filter_cons, List.lookup_cons]
    cases hk : name == k with
    | false =>
      dsimp only
      split
      · rw [List.lookup_cons, hk]
        exact ih
      · exact ih
    | true =>
      obtain rfl := eq_of_beq hk
      cases hnull : value.isNull with
      | false => simp [Option.filter, hnull]
      | true =>
        rw [lookup_eq_none hfresh] at ih
        simpa [Option.filter, hnull] using ih

lemma Known.not_any (h : Known overrides) {name : String} (hname : ∀ f ∈ Field.all, f.name ≠ name) :
    ¬ overrides.any (·.1 == name) = true := by
  intro hany
  obtain ⟨o, ho, heq⟩ := List.any_eq_true.1 hany
  obtain ⟨f, hf⟩ := h o ho
  exact name_ne_of_forall hname f (hf.trans (eq_of_beq heq))

lemma override_eq (hknown : Known overrides) (s : Settings) :
    s.override overrides = s.assign (changes overrides) := by
  rw [override, if_neg (hknown.not_any (by decide))]

end Names

/-! Layers. -/

/-- The value of a setting when all layers are known: what an override says, if it says anything,
else what the table says, else the default value. -/
def layer (overrides entries : List (String × Value)) (f : Field) : Value :=
  ((overrides.lookup f.name).filter (!·.isNull)).getD
    ((entries.lookup f.name).getD (({} : Settings).get f))

/-- The settings that overrides and a table make, setting by setting. -/
def layers (overrides entries : List (String × Value)) : Settings where
  indentOffset := layer overrides entries .indentOffset
  tabWidth := layer overrides entries .tabWidth
  indentWithTabs := layer overrides entries .indentWithTabs
  indentBlankLines := layer overrides entries .indentBlankLines
  recognizedKeywords := layer overrides entries .recognizedKeywords
  backslashEscapes := layer overrides entries .backslashEscapes
  debugLogging := layer overrides entries .debugLogging
  maxFileSize := layer overrides entries .maxFileSize

lemma get_layers (overrides entries : List (String × Value)) (f : Field) :
    (layers overrides entries).get f = layer overrides entries f := by cases f <;> rfl

/-- The table that a search ends with; it is empty if nothing is found. -/
inductive FirstTable (v : View) (readable : Bool) (start : Path) : Toml.Entries → Prop
  | absent (h : Search v readable (candidates start) (.ok none)) : FirstTable v readable start []
  | present {c : Candidate} {entries : Toml.Entries}
      (h : Search v readable (candidates start) (.ok (some (c, .table entries)))) :
      FirstTable v readable start entries

variable {v : View} {readable : Bool} {p start : Path} {entries : Toml.Entries}
  {overrides : List (String × Value)}

lemma Search.exists_present {cs : List Candidate} {c : Candidate} {found : Value}
    (h : Search v readable cs (.ok (some (c, found)))) : c.Present v readable found := by
  generalize hr : Except.ok (some (c, found)) = r at h
  induction h with
  | nothing => cases hr
  | present hpresent =>
    cases hr
    exact hpresent
  | blocked => cases hr
  | missing _ _ ih => exact ih hr

lemma valueAt?_keyed {value found : Value} {keys : List String} (hvalue : value.Keyed)
    (h : valueAt? value keys = some found) : found.Keyed := by
  induction keys generalizing value with
  | nil =>
    cases h
    exact hvalue
  | cons k keys ih =>
    obtain ⟨next, hnext, hfound⟩ := Option.bind_eq_some_iff.1 h
    cases value with
    | table t => exact ih ((Toml.keyed_table_iff.1 hvalue).of_lookup hnext) hfound
    | _ => cases hnext

/-- A table that is found has each of its keys once. -/
lemma FirstTable.once (h : FirstTable v readable start entries) : Once entries := by
  cases h with
  | absent => exact .nil
  | present h =>
    obtain ⟨doc, ⟨f, text, -, -, hparse⟩, hfound⟩ := h.exists_present
    have hdoc := Toml.keyed_table_iff.2 (Toml.keyed_parse hparse)
    exact (Toml.keyed_table_iff.1 (valueAt?_keyed hdoc hfound)).1

lemma normalize_default : normalize {} = .ok {} := normalize_of_isNormal (by decide +kernel)

/-- What is loaded is the table over the default values, normalized. -/
lemma exists_load (hstart : v.resolve false p = .ok start)
    (htable : FirstTable v readable start entries) (hknown : Known entries)
    (hkeywords : ∀ value, entries.lookup Field.recognizedKeywords.name = some value →
      (keywordEntries? value).isSome = true) :
    ∃ given found : Settings, load v readable p = .ok found ∧ given.normalize = .ok found ∧
      ∀ f, given.get f = (entries.lookup f.name).getD (({} : Settings).get f) := by
  obtain ⟨given, hgiven, hget⟩ := exists_assign hknown htable.once {}
  have hsome : (keywordEntries? given.recognizedKeywords).isSome = true := by
    have hwords := hget .recognizedKeywords
    change given.recognizedKeywords = _ at hwords
    rw [hwords]
    cases hvalue : entries.lookup Field.recognizedKeywords.name with
    | none => rfl
    | some value => exact hkeywords value hvalue
  obtain ⟨ws, hws⟩ := Option.isSome_iff_exists.1 hsome
  obtain ⟨found, hnormal⟩ : ∃ found, given.normalize = .ok found :=
    ⟨_, normalize_eq_ok_iff.2 ⟨ws, hws, rfl⟩⟩
  refine ⟨given, found, ?_, hnormal, hget⟩
  cases htable with
  | absent h =>
    cases hgiven
    cases normalize_default.symm.trans hnormal
    exact load_of_search hstart h
  | @present c _ h =>
    rw [load_of_search hstart h]
    have hmade : ofTable c.origin (.table entries) = .ok given :=
      congrArg (Except.mapError (Problem.badName c.origin)) hgiven
    change (c.settings (.table entries)).mapError SearchFault.settings = _
    rw [Candidate.settings, hmade]
    exact congrArg (Except.mapError _) hnormal

/-- Keywords may be normalized before or after the other values are given. -/
lemma normalize_congr {s s' : Settings}
    (hothers : ∀ f, f ≠ .recognizedKeywords → s.get f = s'.get f)
    (hwords : s.recognizedKeywords = s'.recognizedKeywords ∨
      ∃ n, s'.normalize = .ok n ∧ s.recognizedKeywords = n.recognizedKeywords) :
    s.normalize = s'.normalize := by
  rcases hwords with hsame | ⟨n, hn, hsame⟩
  · have hs : s = s' := by
      refine ext_get fun f => ?_
      by_cases hf : f = .recognizedKeywords
      · rw [hf]
        exact hsame
      · exact hothers f hf
    rw [hs]
  · have hs : s = n := by
      refine ext_get fun f => ?_
      by_cases hf : f = .recognizedKeywords
      · rw [hf]
        exact hsame
      · rw [hothers f hf, get_normalize hn hf]
    rw [hs, normalize_of_normalize hn, hn]

/-- Overrides over settings that are normalized come to the same as overrides over the settings as
they were. -/
lemma exists_override {given found : Settings} (hknown : Known overrides) (honce : Once overrides)
    (hnormal : given.normalize = .ok found)
    (hget : ∀ f, given.get f = (entries.lookup f.name).getD (({} : Settings).get f)) :
    ∃ s, found.override overrides = .ok s ∧
      s.normalize = (layers overrides entries).normalize := by
  obtain ⟨s, hs, hlayered⟩ := exists_assign (known_changes hknown) (once_changes honce) found
  refine ⟨s, (override_eq hknown found).trans hs, ?_⟩
  have hall : ∀ f, (layers overrides entries).get f =
      ((overrides.lookup f.name).filter (!·.isNull)).getD (given.get f) := by
    intro f
    rw [get_layers, layer, hget]
  simp only [lookup_changes honce] at hlayered
  refine normalize_congr (fun f hf => ?_) ?_
  · rw [hlayered, hall, get_normalize hnormal hf]
  · have hwords := hlayered .recognizedKeywords
    have hwords' := hall .recognizedKeywords
    change s.recognizedKeywords = _ at hwords
    change (layers overrides entries).recognizedKeywords = _ at hwords'
    cases h : (overrides.lookup Field.recognizedKeywords.name).filter (!·.isNull) with
    | some value =>
      rw [h] at hwords hwords'
      exact .inl (hwords.trans hwords'.symm)
    | none =>
      rw [h] at hwords hwords'
      obtain ⟨ws, hws, rfl⟩ := normalize_eq_ok_iff.1 hnormal
      refine .inr ⟨_, normalize_eq_ok_iff.2 ⟨ws, ?_, rfl⟩, hwords⟩
      rw [hwords']
      exact hws

lemma build_of_load_error {e : SearchFault} (hoverrides : Known overrides)
    (hload : load v readable p = .error e) : build v readable p overrides = .error e := by
  rw [build, if_neg (hoverrides.not_any (by decide)), hload]
  rfl

lemma build_of_load {found s : Settings} (hoverrides : Known overrides)
    (hload : load v readable p = .ok found) (hs : found.override overrides = .ok s) :
    build v readable p overrides = (s.normalize.mapError .settings >>= fun n =>
      n.check.mapError .settings >>= fun _ => .ok n) := by
  have hnamed : (found.override overrides).mapError SearchFault.name = .ok s := by
    rw [hs]
    rfl
  rw [build, if_neg (hoverrides.not_any (by decide)), hload]
  change ((found.override overrides).mapError SearchFault.name >>= _) = _
  rw [hnamed]
  rfl

/-- A fault that ends the search is that of the settings. Otherwise they are built as if all layers
were laid first and the result checked once: it is refused for the reason for which the layered
settings are, or else it is their normal form. That is usable and stays as it is, and has each value
that an override gives. -/
theorem build_layers (hstart : v.resolve false p = .ok start) (hoverrides : Known overrides)
    (honce : Once overrides) :
    (∀ e, Search v readable (candidates start) (.error e) →
      build v readable p overrides = .error e) ∧
    ∀ entries, FirstTable v readable start entries → Known entries →
      (∀ value, entries.lookup Field.recognizedKeywords.name = some value →
        (keywordEntries? value).isSome = true) →
      (∀ problem, (layers overrides entries).check = .error problem →
        build v readable p overrides = .error (.settings problem)) ∧
      ∀ style, (layers overrides entries).check = .ok style →
        ∃ n, (layers overrides entries).normalize = .ok n ∧ build v readable p overrides = .ok n ∧
          n.check = .ok style ∧ n.normalize = .ok n ∧
          ∀ f value, f ≠ .recognizedKeywords → overrides.lookup f.name = some value →
            value.isNull = false → n.get f = value := by
  refine ⟨fun e he => build_of_load_error hoverrides (load_of_search hstart he), ?_⟩
  intro entries htable hknown hkeywords
  obtain ⟨given, found, hload, hnormal, hget⟩ := exists_load hstart htable hknown hkeywords
  obtain ⟨s, hs, hsame⟩ := exists_override hoverrides honce hnormal hget
  have hbuild := build_of_load hoverrides hload hs
  rw [hsame] at hbuild
  cases hn : (layers overrides entries).normalize with
  | error problem =>
    have hcheck : (layers overrides entries).check = .error problem := by
      rw [check, hn]
      rfl
    rw [hn] at hbuild
    refine ⟨fun problem' hproblem => ?_, fun style hstyle => ?_⟩
    · cases hcheck.symm.trans hproblem
      exact hbuild
    · cases hcheck.symm.trans hstyle
  | ok n =>
    have hcheck := check_of_normalize hn
    have hend : build v readable p overrides =
        ((layers overrides entries).check.mapError .settings).map fun _ => n := by
      rw [hbuild, hn, ← hcheck]
      rfl
    refine ⟨fun problem hproblem => ?_, fun style hstyle => ⟨n, rfl, ?_, ?_, ?_, ?_⟩⟩
    · rw [hend, hproblem]
      rfl
    · rw [hend, hstyle]
      rfl
    · rw [hcheck, hstyle]
    · exact normalize_of_normalize hn
    · intro f value hf hvalue hnull
      rw [get_normalize hn hf, get_layers, layer, hvalue]
      simp [Option.filter, hnull]

/-- A table whose first value is not usable and whose second one is true. -/
def wrongOffset : View where
  disk :=
    let bytes := Text.Utf8.encode
      "[tool.sql-indent]\nindent_offset = 'x'\nindent_with_tabs = true\n".toList
    { nodes := [(["pyproject.toml"], .file ⟨bytes, .plainFile, 1, 0, 0, 0⟩)] }
  cwd := []

/-- The wrong value is replaced, and false comes before true. -/
theorem build_layers_wrongOffset :
    build wrongOffset true ⟨.here, []⟩ [("indent_offset", .int 2), ("tab_width", .null),
        ("indent_with_tabs", .bool false), ("debug_logging", .null)] =
      .ok { indentOffset := .int 2, indentWithTabs := .bool false } := by
  let entries : Toml.Entries := [("indent_offset", .text "x"), ("indent_with_tabs", .bool true)]
  let overrides : List (String × Value) := [("indent_offset", .int 2), ("tab_width", .null),
    ("indent_with_tabs", .bool false), ("debug_logging", .null)]
  have htable : FirstTable wrongOffset true (.ofLocation []) entries := by
    have hpresent : (Candidate.mk (.ofLocation ["pyproject.toml"]) ["tool", "sql-indent"]).Present
        wrongOffset true (.table [("indent_offset", .text "x"), ("indent_with_tabs", .bool true)]) := by
      decide +kernel
    exact .present (.present hpresent _)
  have hknown : Known entries := by
    simp only [Known, entries, List.forall_mem_cons]
    exact ⟨⟨.indentOffset, rfl⟩, ⟨.indentWithTabs, rfl⟩, List.forall_mem_nil _⟩
  have hoverrides : Known overrides := by
    simp only [Known, overrides, List.forall_mem_cons]
    exact ⟨⟨.indentOffset, rfl⟩, ⟨.tabWidth, rfl⟩, ⟨.indentWithTabs, rfl⟩, ⟨.debugLogging, rfl⟩,
      List.forall_mem_nil _⟩
  have honce : Once overrides := by
    unfold Once
    decide
  obtain ⟨style, hstyle⟩ : ∃ style, (layers overrides entries).check = .ok style :=
    exists_ok_of_isSome_toOption (by decide +kernel)
  have hkeywords : entries.lookup Field.recognizedKeywords.name = none := rfl
  obtain ⟨n, hn, hbuild, -⟩ := ((build_layers (p := ⟨.here, []⟩) rfl hoverrides honce).2 _ htable
    hknown (by simp [hkeywords])).2 style hstyle
  have hnormal : (layers overrides entries).normalize =
      .ok { indentOffset := .int 2, indentWithTabs := .bool false } :=
    normalize_of_isNormal (by decide +kernel)
  cases hnormal.symm.trans hn
  exact hbuild

/-- A garbled file keeps even the default settings from being built, which are usable, though there
is no table. -/
theorem build_layers_oneByte :
    (∀ c ∈ candidates (.ofLocation []), ∀ found, ¬ c.Present oneByte true found) ∧
    (∃ style, (layers [] []).check = .ok style) ∧
    build oneByte true ⟨.here, []⟩ [] = .error (.undecodable ⟨0xff, 0, 1, .invalidStart⟩) := by
  have hnothing : ∀ c ∈ candidates (.ofLocation []),
      (c.look oneByte true).toOption.join = none := by
    decide +kernel
  exact ⟨fun c hc _ => Candidate.not_present_of_look (hnothing c hc),
    exists_ok_of_isSome_toOption (by decide +kernel),
    eq_error_of_map_eq_error (f := fun _ => ()) (by decide +kernel)⟩

end Settings
end SqlMargin
