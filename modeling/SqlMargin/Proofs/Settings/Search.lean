import SqlMargin.Proofs.Outcome
import SqlMargin.Proofs.Value
import SqlMargin.Settings.Discovery

/-! The search for settings, candidate by candidate. A candidate is a table that may hold settings;
the candidates of a search stand in one order, whatever directory and file they are in. The first
one that is present decides, alone. -/
namespace SqlMargin.Settings

/-- A place where a table of settings may be: a file, and the keys that lead to the table in it. -/
structure Candidate where
  file : Path
  keys : List String

/-- The candidates in a file, in order. -/
def Source.candidates (source : Source) (directory : Path) : List Candidate :=
  source.tables.map (⟨directory.child source.file, ·⟩)

/-- The candidates for a directory: its own ones, then those of the directories above it. -/
def candidates (start : Path) : List Candidate :=
  (start :: start.parents).flatMap fun directory => sources.flatMap (·.candidates directory)

/-- Bytes that are not a document, and not taken for a malformed one either: they are no text, or
the reader gives the text up. -/
inductive Garbled (room : Nat) (bytes : List UInt8) : SearchFault → Prop
  | bytes {fault : Text.Utf8.Fault} (h : Text.Utf8.decode bytes = .error fault) :
      Garbled room bytes (.undecodable fault)
  | text {text : List Char} {fault : Toml.Fault} (htext : Text.Utf8.decode bytes = .ok text)
      (h : Toml.parse room text = .error fault) (hne : fault ≠ .malformed) :
      Garbled room bytes (.unreadable fault)

section File

variable (v : View) (readable : Bool) (path : Path)

/-- A path leads to a regular file that may be read. -/
def Opens (f : File) : Prop :=
  (∃ loc, v.node true path.text = .ok (loc, .file f)) ∧ readable = true ∧
    f.mode.mayRead v.user = true

/-- A path leads to a regular file that may be read and holds a document. -/
def Parses (doc : Toml.Entries) : Prop :=
  ∃ f text, Opens v readable path f ∧ Text.Utf8.decode f.bytes = .ok text ∧
    Toml.parse v.nesting.values text = .ok doc

/-- A path keeps a search from going on: its look-up fails in a way that is not taken for absence,
or the file there is garbled. -/
inductive Blocks : SearchFault → Prop
  | lookUp {e : Errno} (h : v.node true path.text = .error (.failed e))
      (habsence : isAbsence e = false) : Blocks (.system ⟨e, some path.text⟩)
  | file {f : File} {e : SearchFault} (h : Opens v readable path f)
      (hbytes : Garbled v.nesting.values f.bytes e) : Blocks e

end File

namespace Candidate

variable (v : View) (readable : Bool)

/-- How messages refer to a candidate. -/
def origin (c : Candidate) : String :=
  let table := ".".intercalate c.keys
  s!"[{table}] in {c.file.text}"

/-- The settings that are made of the value at a candidate, if it is a table of settings. -/
def settings (c : Candidate) (found : Value) : Except Problem Settings :=
  ofTable c.origin found >>= normalize

/-- There is a value at a candidate. -/
def Present (c : Candidate) (found : Value) : Prop :=
  ∃ doc, Parses v readable c.file doc ∧ valueAt? (.table doc) c.keys = some found

/-- There is nothing at a candidate, and nothing that keeps a search from going on. -/
def Missing (c : Candidate) : Prop :=
  (∀ found, ¬ c.Present v readable found) ∧ ∀ e, ¬ Blocks v readable c.file e

end Candidate

/-- How a search along candidates ends: at the first one that is not missing, or with nothing. -/
inductive Search (v : View) (readable : Bool) :
    List Candidate → Except SearchFault (Option (Candidate × Value)) → Prop
  | nothing : Search v readable [] (.ok none)
  | present {c : Candidate} {found : Value} (h : c.Present v readable found)
      (rest : List Candidate) : Search v readable (c :: rest) (.ok (some (c, found)))
  | blocked {c : Candidate} {e : SearchFault} (h : Blocks v readable c.file e)
      (rest : List Candidate) : Search v readable (c :: rest) (.error e)
  | missing {c : Candidate} {rest : List Candidate}
      {r : Except SearchFault (Option (Candidate × Value))} (h : c.Missing v readable)
      (hrest : Search v readable rest r) : Search v readable (c :: rest) r

/-- The settings that come of what a search has found. -/
def concluded : Option (Candidate × Value) → Except SearchFault Settings
  | none => .ok {}
  | some (c, found) => (c.settings found).mapError .settings

variable {v : View} {readable : Bool} {path : Path} {doc : Toml.Entries}

/-! What is read from a file. -/

section Reading

variable {room : Nat} {bytes : List UInt8} {text : List Char} {e : SearchFault}

lemma document?_of_text (h : Text.Utf8.decode bytes = .ok text) :
    document? room bytes = match Toml.parse room text with
      | .ok doc => .ok (some doc)
      | .error .malformed => .ok none
      | .error fault => .error (.unreadable fault) := by
  rw [document?, h]
  rfl

lemma document?_eq_some_iff :
    document? room bytes = .ok (some doc) ↔
      ∃ text, Text.Utf8.decode bytes = .ok text ∧ Toml.parse room text = .ok doc := by
  constructor
  · intro h
    rcases htext : Text.Utf8.decode bytes with fault | text
    · rw [document?, htext] at h
      cases h
    · rw [document?_of_text htext] at h
      split at h
      · next entries hparse =>
        cases h
        exact ⟨text, rfl, hparse⟩
      all_goals cases h
  · rintro ⟨text, htext, hparse⟩
    rw [document?_of_text htext, hparse]

lemma document?_eq_error_iff : document? room bytes = .error e ↔ Garbled room bytes e := by
  constructor
  · intro h
    rcases htext : Text.Utf8.decode bytes with fault | text
    · rw [document?, htext] at h
      cases h
      exact .bytes htext
    · rw [document?_of_text htext] at h
      split at h
      · cases h
      · cases h
      · next fault hne hparse =>
        cases h
        exact .text htext hparse hne
  · intro h
    cases h with
    | bytes htext => rw [document?, htext]; rfl
    | @text text fault htext hparse hne =>
      rw [document?_of_text htext, hparse]
      cases fault with
      | malformed => exact absurd rfl hne
      | _ => rfl

lemma readSource_of_opens {f : File} (h : Opens v readable path f) :
    readSource v readable path = document? v.nesting.values f.bytes := by
  obtain ⟨⟨loc, hnode⟩, hreadable, hmode⟩ := h
  rw [readSource, hnode]
  dsimp only
  rw [hreadable, hmode]
  rfl

/-- What is read is nothing, unless the path opens a file or the look-up is blocked. -/
lemma readSource_cases (v : View) (readable : Bool) (path : Path) :
    readSource v readable path = .ok none ∨ (∃ f, Opens v readable path f) ∨
      ∃ e, Blocks v readable path e ∧ readSource v readable path = .error e := by
  unfold readSource
  split
  · exact .inl rfl
  · next e hnode =>
    cases habsence : isAbsence e with
    | true => exact .inl rfl
    | false => exact .inr (.inr ⟨_, .lookUp hnode habsence, rfl⟩)
  · next loc f hnode =>
    cases hread : readable && f.mode.mayRead v.user with
    | false => exact .inl rfl
    | true =>
      rw [Bool.and_eq_true] at hread
      exact .inr (.inl ⟨f, ⟨loc, hnode⟩, hread⟩)
  · exact .inl rfl

lemma readSource_eq_some_iff :
    readSource v readable path = .ok (some doc) ↔ Parses v readable path doc := by
  constructor
  · intro h
    rcases readSource_cases v readable path with hnone | ⟨f, hf⟩ | ⟨e, -, he⟩
    · rw [hnone] at h
      cases h
    · rw [readSource_of_opens hf, document?_eq_some_iff] at h
      obtain ⟨text, htext⟩ := h
      exact ⟨f, text, hf, htext⟩
    · rw [he] at h
      cases h
  · rintro ⟨f, text, hf, htext⟩
    rw [readSource_of_opens hf, document?_eq_some_iff]
    exact ⟨text, htext⟩

lemma readSource_eq_error_iff :
    readSource v readable path = .error e ↔ Blocks v readable path e := by
  constructor
  · intro h
    rcases readSource_cases v readable path with hnone | ⟨f, hf⟩ | ⟨e', hblocks, he⟩
    · rw [hnone] at h
      cases h
    · rw [readSource_of_opens hf, document?_eq_error_iff] at h
      exact .file hf h
    · rw [he] at h
      cases h
      exact hblocks
  · intro h
    cases h with
    | lookUp hnode habsence =>
      rw [readSource, hnode]
      dsimp only
      rw [habsence]
      rfl
    | file hf hbytes => rw [readSource_of_opens hf, document?_eq_error_iff.2 hbytes]

end Reading

/-! The search. -/

namespace Candidate

/-- What a candidate holds, if its file does not count as absent and has its table. -/
def look (c : Candidate) (v : View) (readable : Bool) : Except SearchFault (Option Value) :=
  (readSource v readable c.file).map (·.bind fun doc => valueAt? (.table doc) c.keys)

variable {c : Candidate} {found : Value} {e : SearchFault}

lemma present_iff : c.Present v readable found ↔ c.look v readable = .ok (some found) := by
  unfold Present look
  simp only [← readSource_eq_some_iff]
  constructor
  · rintro ⟨doc, hdoc, hfound⟩
    rw [hdoc, ← hfound]
    rfl
  · intro h
    obtain ⟨o, ho, hfound⟩ := exists_of_map_eq_ok h
    cases o with
    | none => cases hfound
    | some doc => exact ⟨doc, ho, hfound⟩

lemma not_present_of_look (h : (c.look v readable).toOption.join = none) :
    ¬ c.Present v readable found := by
  intro hpresent
  rw [present_iff.1 hpresent] at h
  cases h

lemma blocks_iff : Blocks v readable c.file e ↔ c.look v readable = .error e := by
  rw [← readSource_eq_error_iff, look]
  constructor
  · intro h
    rw [h]
    rfl
  · exact eq_error_of_map_eq_error

/-- A candidate is missing if its file counts as absent, or does not have its table. -/
lemma missing_iff : c.Missing v readable ↔ c.look v readable = .ok none := by
  simp only [Missing, present_iff, blocks_iff]
  cases c.look v readable with
  | error e => exact ⟨fun h => absurd rfl (h.2 e), nofun⟩
  | ok o =>
    cases o with
    | none => exact ⟨fun _ => rfl, fun _ => ⟨nofun, nofun⟩⟩
    | some found => exact ⟨fun h => absurd rfl (h.1 found), nofun⟩

instance : Decidable (c.Present v readable found) := decidable_of_iff' _ present_iff

instance : Decidable (c.Missing v readable) := decidable_of_iff' _ missing_iff

end Candidate

namespace Search

variable {c : Candidate} {cs rest : List Candidate} {found : Value} {e : SearchFault}
  {r : Except SearchFault (Option (Candidate × Value))}

/-- A search goes on behind candidates that are missing. -/
lemma behind {before : List Candidate} (h : ∀ b ∈ before, b.Missing v readable)
    (hrest : Search v readable rest r) : Search v readable (before ++ rest) r := by
  induction before with
  | nil => exact hrest
  | cons b before ih =>
    rw [List.forall_mem_cons] at h
    exact .missing h.1 (ih h.2)

/-- Every search comes to an end. -/
lemma exists_end (v : View) (readable : Bool) (cs : List Candidate) :
    ∃ r, Search v readable cs r := by
  induction cs with
  | nil => exact ⟨_, .nothing⟩
  | cons c rest ih =>
    rcases h : c.look v readable with e | _ | found
    · exact ⟨_, .blocked (Candidate.blocks_iff.2 h) rest⟩
    · exact ih.imp fun _ => .missing (Candidate.missing_iff.2 h)
    · exact ⟨_, .present (Candidate.present_iff.2 h) rest⟩

/-- What the first candidate holds ends the search; if it is missing the search goes on. -/
lemma cons_cases (h : Search v readable (c :: rest) r) :
    (c.look v readable = .ok none ∧ Search v readable rest r) ∨
      (∃ found, c.look v readable = .ok (some found) ∧ r = .ok (some (c, found))) ∨
      ∃ e, c.look v readable = .error e ∧ r = .error e := by
  cases h with
  | present hpresent => exact .inr (.inl ⟨_, Candidate.present_iff.1 hpresent, rfl⟩)
  | blocked hblocks => exact .inr (.inr ⟨_, Candidate.blocks_iff.1 hblocks, rfl⟩)
  | missing hmissing hrest => exact .inl ⟨Candidate.missing_iff.1 hmissing, hrest⟩

lemma of_missing (h : Search v readable (c :: rest) r) (hlook : c.look v readable = .ok none) :
    Search v readable rest r := by
  rcases h.cons_cases with ⟨-, hrest⟩ | ⟨found, hfound, -⟩ | ⟨e, he, -⟩
  · exact hrest
  · rw [hlook] at hfound
    cases hfound
  · rw [hlook] at he
    cases he

lemma eq_of_blocks (h : Search v readable (c :: rest) r) (hlook : c.look v readable = .error e) :
    r = .error e := by
  rcases h.cons_cases with ⟨hnone, -⟩ | ⟨found, hfound, -⟩ | ⟨e', he, rfl⟩
  · rw [hlook] at hnone
    cases hnone
  · rw [hlook] at hfound
    cases hfound
  · rw [hlook] at he
    cases he
    rfl

lemma eq_of_present (h : Search v readable (c :: rest) r)
    (hlook : c.look v readable = .ok (some found)) : r = .ok (some (c, found)) := by
  rcases h.cons_cases with ⟨hnone, -⟩ | ⟨found', hfound, rfl⟩ | ⟨e, he, -⟩
  · rw [hlook] at hnone
    cases hnone
  · rw [hlook] at hfound
    cases hfound
    rfl
  · rw [hlook] at he
    cases he

end Search

/-- What a search makes of the value it has found, before keywords are normalized. -/
def taken : Option (Candidate × Value) → Except SearchFault (Option Settings)
  | none => .ok none
  | some (c, found) => ((ofTable c.origin found).mapError .settings).map some

/-- Work that looks at some candidates does what a search does that begins with them: it finds
nothing, and the search goes on behind them, or it ends the search. -/
def Covers (v : View) (readable : Bool) (cs : List Candidate)
    (work : Except SearchFault (Option Settings)) : Prop :=
  ∀ rest r, Search v readable (cs ++ rest) r →
    work = .ok none ∧ Search v readable rest r ∨ work ≠ .ok none ∧ work = r >>= taken

namespace Covers

variable {cs cs' : List Candidate} {work next : Except SearchFault (Option Settings)}

lemma nil : Covers v readable [] (.ok none) := fun _ _ h => .inl ⟨rfl, h⟩

/-- Work on more candidates, if nothing was found among the first ones. -/
lemma append (h : Covers v readable cs work) (hnext : Covers v readable cs' next) :
    Covers v readable (cs ++ cs')
      (work >>= fun | none => next | some s => pure (some s)) := by
  intro rest r hsearch
  rw [List.append_assoc] at hsearch
  rcases h _ r hsearch with ⟨hnone, hrest⟩ | ⟨hsome, htaken⟩
  · rw [hnone]
    exact hnext rest r hrest
  · have hstop : (work >>= fun | none => next | some s => pure (some s)) = work := by
      rcases work with e | _ | s
      · rfl
      · exact absurd rfl hsome
      · rfl
    rw [hstop]
    exact .inr ⟨hsome, htaken⟩

/-- The tables of a file that holds a document. -/
lemma inTables (hdoc : readSource v readable path = .ok (some doc)) (tables : List (List String)) :
    Covers v readable (tables.map (⟨path, ·⟩)) (inTables doc path tables) := by
  induction tables with
  | nil => exact nil
  | cons keys rest ih =>
    intro after r hsearch
    have hlook : (Candidate.mk path keys).look v readable =
        .ok (valueAt? (.table doc) keys) := by
      rw [Candidate.look, hdoc]
      rfl
    rw [Settings.inTables]
    cases hvalue : valueAt? (.table doc) keys with
    | none =>
      rw [hvalue] at hlook
      exact ih after r (hsearch.of_missing hlook)
    | some found =>
      rw [hvalue] at hlook
      obtain rfl := hsearch.eq_of_present hlook
      refine .inr ⟨fun h => ?_, rfl⟩
      obtain ⟨s, -, hs⟩ := exists_of_map_eq_ok h
      cases hs

/-- The tables of a file, which is read once for all of them. -/
lemma source (v : View) (readable : Bool) (directory : Path) {s : Source} (hs : s.tables ≠ []) :
    Covers v readable (s.candidates directory)
      (readSource v readable (directory.child s.file) >>= fun
        | none => pure none
        | some doc => Settings.inTables doc (directory.child s.file) s.tables) := by
  have hlook (keys : List String) : (Candidate.mk (directory.child s.file) keys).look v readable =
      (readSource v readable (directory.child s.file)).map
        (·.bind fun doc => valueAt? (.table doc) keys) := rfl
  rcases h : readSource v readable (directory.child s.file) with e | _ | doc
  · intro rest r hsearch
    obtain ⟨keys, tables, htables⟩ := List.exists_cons_of_ne_nil hs
    rw [Source.candidates, htables] at hsearch
    rw [h] at hlook
    obtain rfl := hsearch.eq_of_blocks (hlook keys)
    exact .inr ⟨nofun, rfl⟩
  · have hmissing : ∀ tables : List (List String),
        Covers v readable (tables.map (⟨directory.child s.file, ·⟩)) (.ok none) := by
      intro tables
      induction tables with
      | nil => exact nil
      | cons keys tables ih =>
        intro rest r hsearch
        rw [h] at hlook
        exact ih rest r (hsearch.of_missing (hlook keys))
    exact hmissing s.tables
  · exact inTables h s.tables

lemma inSources (v : View) (readable : Bool) (directory : Path) (ss : List Source)
    (hss : ∀ s ∈ ss, s.tables ≠ []) :
    Covers v readable (ss.flatMap (·.candidates directory))
      (Settings.inSources v readable directory ss) := by
  induction ss with
  | nil => exact nil
  | cons s ss ih =>
    rw [List.forall_mem_cons] at hss
    have hwork : Settings.inSources v readable directory (s :: ss) =
        (readSource v readable (directory.child s.file) >>= fun
          | none => pure none
          | some doc => Settings.inTables doc (directory.child s.file) s.tables) >>= fun
            | none => Settings.inSources v readable directory ss
            | some s => pure (some s) := by
      rw [Settings.inSources, bind_assoc]
      refine bind_congr fun o => ?_
      cases o <;> rfl
    rw [List.flatMap_cons, hwork]
    exact (source v readable directory hss.1).append (ih hss.2)

lemma inDirectories (v : View) (readable : Bool) (directories : List Path) :
    Covers v readable
      (directories.flatMap fun directory => sources.flatMap (·.candidates directory))
      (Settings.inDirectories v readable directories) := by
  induction directories with
  | nil => exact nil
  | cons directory rest ih =>
    rw [List.flatMap_cons, Settings.inDirectories]
    exact (inSources v readable directory sources (by decide)).append ih

end Covers

variable {p start : Path}

/-- The settings for a directory are those that a search along its candidates ends with. -/
lemma load_of_search {r : Except SearchFault (Option (Candidate × Value))}
    (hstart : v.resolve false p = .ok start) (h : Search v readable (candidates start) r) :
    load v readable p = r >>= concluded := by
  have hload : load v readable p = inDirectories v readable (start :: start.parents) >>= fun
      | none => pure {}
      | some s => s.normalize.mapError .settings := by
    rw [load, hstart]
    rfl
  rw [← List.append_nil (candidates start)] at h
  rw [hload]
  rcases Covers.inDirectories v readable _ [] r h with ⟨hnone, hnothing⟩ | ⟨-, htaken⟩
  · rw [hnone]
    cases hnothing
    rfl
  · rw [htaken]
    rcases r with e | _ | ⟨c, found⟩
    · rfl
    · rfl
    · change ((ofTable c.origin found).mapError _).map some >>= _ = (c.settings found).mapError _
      rw [Candidate.settings]
      cases ofTable c.origin found <;> rfl

/-- The nearest settings decide. If all candidates are missing the settings are the default ones.
Behind candidates that are missing, the first one that is present decides, whatever else there is on
the disk; and a file that can neither be read nor be passed over ends the search. -/
theorem load_nearest (hstart : v.resolve false p = .ok start) :
    ((∀ c ∈ candidates start, c.Missing v readable) → load v readable p = .ok {}) ∧
    ∀ before c after, candidates start = before ++ c :: after →
      (∀ b ∈ before, b.Missing v readable) →
      (∀ found, c.Present v readable found →
        load v readable p = (c.settings found).mapError .settings ∧
        ∀ v' readable', v'.resolve false p = .ok start →
          (∀ b ∈ before, b.Missing v' readable') → c.Present v' readable' found →
          load v' readable' p = load v readable p) ∧
      ∀ e, Blocks v readable c.file e → load v readable p = .error e := by
  refine ⟨fun hmissing => ?_, fun before c after hcandidates hmissing => ⟨?_, ?_⟩⟩
  · have hnothing := Search.behind hmissing .nothing
    rw [List.append_nil] at hnothing
    exact load_of_search hstart hnothing
  · intro found hpresent
    have hdecides : ∀ v' readable', v'.resolve false p = .ok start →
        (∀ b ∈ before, b.Missing v' readable') → c.Present v' readable' found →
        load v' readable' p = (c.settings found).mapError .settings := by
      intro v' readable' hstart' hmissing' hpresent'
      have hsearch := Search.behind hmissing' (.present hpresent' after)
      rw [← hcandidates] at hsearch
      exact load_of_search hstart' hsearch
    have hload := hdecides v readable hstart hmissing hpresent
    exact ⟨hload, fun v' readable' hstart' hmissing' hpresent' =>
      (hdecides v' readable' hstart' hmissing' hpresent').trans hload.symm⟩
  · intro e hblocks
    have hsearch := Search.behind hmissing (.blocked hblocks after)
    rw [← hcandidates] at hsearch
    exact load_of_search hstart hsearch

/-- Configuration files in a directory and in those above it. The nearest one is malformed and the
next one has no table of settings. The top one may be malformed, too. -/
def nested (topIsMalformed : Bool) : View where
  disk :=
    let file (text : String) : Node := .file ⟨Text.Utf8.encode text.toList, .plainFile, 1, 0, 0, 0⟩
    { nodes := [
      (["a"], .directory .plainDirectory),
      (["a", "b"], .directory .plainDirectory),
      (["a", "b", "pyproject.toml"], file "[tool"),
      (["a", "b", ".sql-indent.toml"], file "[other]"),
      (["a", "pyproject.toml"], file "[tool.sql-indent]\ntab_width = 2"),
      (["pyproject.toml"], file (if topIsMalformed then "[" else "[tool.sql-indent]"))] }
  cwd := ["a", "b"]

/-- What stands above the settings found does not matter. -/
theorem load_nearest_nested :
    load (nested false) true ⟨.here, []⟩ = .ok { tabWidth := .int 2 } ∧
    load (nested true) true ⟨.here, []⟩ = .ok { tabWidth := .int 2 } := by
  have hmissing : ∀ top, ∀ b ∈ (candidates (.ofLocation ["a", "b"])).take 3,
      b.Missing (nested top) true := by
    decide +kernel
  have hpresent : ∀ top, (Candidate.mk (.ofLocation ["a", "pyproject.toml"])
      ["tool", "sql-indent"]).Present (nested top) true (.table [("tab_width", .int 2)]) := by
    decide +kernel
  have hstart : ∀ top, (nested top).resolve false ⟨.here, []⟩ = .ok (.ofLocation ["a", "b"]) := by
    intro top
    cases top <;> rfl
  obtain ⟨hload, hsame⟩ :=
    ((load_nearest (hstart false)).2 _ _ _ rfl (hmissing false)).1 _ (hpresent false)
  have hnormal : normalize { tabWidth := .int 2 } = .ok { tabWidth := .int 2 } :=
    normalize_of_isNormal (by decide +kernel)
  have hload' : load (nested false) true ⟨.here, []⟩ = .ok { tabWidth := .int 2 } :=
    hload.trans (congrArg (Except.mapError _) hnormal)
  exact ⟨hload', (hsame _ _ (hstart true) (hmissing true) (hpresent true)).trans hload'⟩

/-- The only configuration file is a link into a directory that may not be entered. -/
def closedOff : View where
  disk :=
    let bytes := Text.Utf8.encode "[tool.sql-indent]\nindent_offset = 2\n".toList
    { nodes := [
      (["d"], .directory { bits := 0o600 }),
      (["d", "x.toml"], .file ⟨bytes, .plainFile, 1, 0, 0, 0⟩),
      (["pyproject.toml"], .link "d/x.toml")] }
  cwd := []

/-- No candidate is present, and the settings are not the default ones all the same. -/
theorem load_closedOff :
    (∀ c ∈ candidates (.ofLocation []), ∀ found, ¬ c.Present closedOff true found) ∧
    load closedOff true ⟨.here, []⟩ = .error (.system ⟨.noAccess, some "/pyproject.toml"⟩) := by
  have hnothing : ∀ c ∈ candidates (.ofLocation []),
      (c.look closedOff true).toOption.join = none := by
    decide +kernel
  exact ⟨fun c hc _ => Candidate.not_present_of_look (hnothing c hc),
    eq_error_of_map_eq_error (f := fun _ => ()) (by decide +kernel)⟩

end SqlMargin.Settings
