import SqlMargin.Proofs.Files.Removal
import SqlMargin.Proofs.Settings.Search
import SqlMargin.Proofs.Text.Utf8

/-! Files that hold no document. A search passes over one that is malformed, as if it were not
there. One that is garbled may end the search. -/
namespace SqlMargin.Settings

variable {v : View} {readable : Bool} {p : Path} {loc : List String} {f : File}

/-- What is read does not change when a file that is no document is taken away, unless the file is
garbled. -/
lemma readSource_without (readable : Bool) (path : Path)
    (hfile : v.disk.node? loc = some (.file f))
    (hdoc : ∀ doc, document? v.nesting.values f.bytes ≠ .ok (some doc)) :
    readSource v readable path = readSource (v.without loc) readable path ∨
      ∃ e, Garbled v.nesting.values f.bytes e ∧ readSource v readable path = .error e := by
  unfold readSource
  have hcut := View.cut_node hfile true path.text
  generalize v.node true path.text = x at hcut ⊢
  generalize (v.without loc).node true path.text = x' at hcut ⊢
  cases hcut with
  | same => exact .inl rfl
  | past => exact .inl rfl
  | found =>
    change (if readable && f.mode.mayRead v.user then document? v.nesting.values f.bytes
        else .ok none) = .ok none ∨
      ∃ e, Garbled v.nesting.values f.bytes e ∧
        (if readable && f.mode.mayRead v.user then _ else _) = _
    cases readable && f.mode.mayRead v.user with
    | false => exact .inl rfl
    | true =>
      rcases h : document? v.nesting.values f.bytes with e | _ | doc
      · exact .inr ⟨e, document?_eq_error_iff.1 h, rfl⟩
      · exact .inl rfl
      · exact absurd h (hdoc doc)

lemma Candidate.look_without (c : Candidate) (readable : Bool)
    (hfile : v.disk.node? loc = some (.file f))
    (hdoc : ∀ doc, document? v.nesting.values f.bytes ≠ .ok (some doc)) :
    c.look v readable = c.look (v.without loc) readable ∨
      ∃ e, Garbled v.nesting.values f.bytes e ∧ c.look v readable = .error e := by
  unfold look
  rcases readSource_without readable c.file hfile hdoc with hsame | ⟨e, he, hread⟩
  · exact .inl (by rw [hsame])
  · exact .inr ⟨e, he, by rw [hread]; rfl⟩

/-- A search ends as it does without the file, or with the fault of the file. -/
lemma Search.of_without {cs : List Candidate} {r : Except SearchFault (Option (Candidate × Value))}
    (h : Search (v.without loc) readable cs r) (hfile : v.disk.node? loc = some (.file f))
    (hdoc : ∀ doc, document? v.nesting.values f.bytes ≠ .ok (some doc)) :
    Search v readable cs r ∨
      ∃ e, Garbled v.nesting.values f.bytes e ∧ Search v readable cs (.error e) := by
  induction h with
  | nothing => exact .inl .nothing
  | @present c found hpresent rest =>
    rcases c.look_without readable hfile hdoc with hsame | ⟨e, he, hlook⟩
    · rw [Candidate.present_iff, ← hsame, ← Candidate.present_iff] at hpresent
      exact .inl (.present hpresent rest)
    · exact .inr ⟨e, he, .blocked (Candidate.blocks_iff.2 hlook) rest⟩
  | @blocked c e hblocks rest =>
    rcases c.look_without readable hfile hdoc with hsame | ⟨e, he, hlook⟩
    · rw [Candidate.blocks_iff, ← hsame, ← Candidate.blocks_iff] at hblocks
      exact .inl (.blocked hblocks rest)
    · exact .inr ⟨e, he, .blocked (Candidate.blocks_iff.2 hlook) rest⟩
  | @missing c rest r hmissing hrest ih =>
    rcases c.look_without readable hfile hdoc with hsame | ⟨e, he, hlook⟩
    · rw [Candidate.missing_iff, ← hsame, ← Candidate.missing_iff] at hmissing
      rcases ih with hsearch | ⟨e, he, hsearch⟩
      · exact .inl (.missing hmissing hsearch)
      · exact .inr ⟨e, he, .missing hmissing hsearch⟩
    · exact .inr ⟨e, he, .blocked (Candidate.blocks_iff.2 hlook) rest⟩

/-- A file that is no document might as well not be there: if it is malformed, the settings are
those found without it. If it is garbled, they are, or the search fails with what is wrong with the
file. -/
theorem load_without (hfile : v.disk.node? loc = some (.file f))
    (hdoc : ∀ text doc, Text.Utf8.decode f.bytes = .ok text →
      Toml.parse v.nesting.values text ≠ .ok doc) :
    ((∃ text, Text.Utf8.decode f.bytes = .ok text ∧
        Toml.parse v.nesting.values text = .error .malformed) →
      load v readable p = load (v.without loc) readable p) ∧
    (load v readable p = load (v.without loc) readable p ∨
      ∃ e, Garbled v.nesting.values f.bytes e ∧ load v readable p = .error e) := by
  have hdoc' : ∀ doc, document? v.nesting.values f.bytes ≠ .ok (some doc) := by
    intro doc h
    obtain ⟨text, htext, hparse⟩ := document?_eq_some_iff.1 h
    exact hdoc text doc htext hparse
  have hload : load v readable p = load (v.without loc) readable p ∨
      ∃ e, Garbled v.nesting.values f.bytes e ∧ load v readable p = .error e := by
    have hresolve := View.resolve_without hfile p
    rcases hstart : v.resolve false p with e | start
    · rw [hstart] at hresolve
      rw [load, load, hstart, hresolve]
      cases e <;> exact .inl rfl
    · rw [hstart] at hresolve
      obtain ⟨r, hr⟩ := Search.exists_end (v.without loc) readable (candidates start)
      rw [load_of_search hresolve hr]
      rcases hr.of_without hfile hdoc' with hsearch | ⟨e, he, hsearch⟩
      · exact .inl (load_of_search hstart hsearch)
      · exact .inr ⟨e, he, load_of_search hstart hsearch⟩
  refine ⟨?_, hload⟩
  rintro ⟨text, htext, hparse⟩
  rcases hload with hsame | ⟨e, he, -⟩
  · exact hsame
  · rw [← document?_eq_error_iff, document?_of_text htext, hparse] at he
    cases he

/-- The nearest configuration file is malformed, and the settings above it are those found. -/
theorem load_without_nested :
    load (nested false) true ⟨.here, []⟩ =
      load ((nested false).without ["a", "b", "pyproject.toml"]) true ⟨.here, []⟩ := by
  have htext := Text.Utf8.decode_encode "[tool".toList
  have hparse : Toml.parse (nested false).nesting.values "[tool".toList = .error .malformed := by
    decide +kernel
  refine (load_without (f := ⟨Text.Utf8.encode "[tool".toList, .plainFile, 1, 0, 0, 0⟩) rfl ?_).1
    ⟨_, htext, hparse⟩
  intro text doc htext' hdoc
  cases htext.symm.trans htext'
  rw [hparse] at hdoc
  cases hdoc

/-- A configuration file that holds one byte, which no text begins with. -/
def oneByte : View where
  disk := { nodes := [(["pyproject.toml"], .file ⟨[0xff], .plainFile, 1, 0, 0, 0⟩)] }
  cwd := []

/-- There are no settings, and none are found only if the file is taken away. -/
theorem load_without_oneByte :
    (∀ text doc, Text.Utf8.decode [0xff] = .ok text →
      Toml.parse oneByte.nesting.values text ≠ .ok doc) ∧
    load oneByte true ⟨.here, []⟩ ≠ load (oneByte.without ["pyproject.toml"]) true ⟨.here, []⟩ := by
  refine ⟨fun text doc htext => ?_, fun h => ?_⟩
  · have hdecode : (Text.Utf8.decode [0xff]).toOption = none := by decide +kernel
    rw [htext] at hdecode
    cases hdecode
  · have hfails : (load oneByte true ⟨.here, []⟩).toOption.isNone = true := by decide +kernel
    have hfinds : (load (oneByte.without ["pyproject.toml"]) true ⟨.here, []⟩).toOption.isNone =
        false := by decide +kernel
    rw [h, hfinds] at hfails
    cases hfails

end SqlMargin.Settings
