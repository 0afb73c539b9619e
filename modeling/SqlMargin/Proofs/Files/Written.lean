import Mathlib.Data.List.Infix
import SqlMargin.Files.Guard
import SqlMargin.Proofs.Outcome

/-! Paths as they are written. The names of a path that was read from a text can be read off the
text that it is written as, and a path above another one is written no longer. -/
namespace SqlMargin
namespace Path

/-- The names of a path are such as stand between slashes. -/
def Written (p : Path) : Prop := ∀ name ∈ p.parts, '/' ∉ name.toList ∧ isIdle name = false

section Written

variable {p : Path}

lemma written_ofString (s : String) : (ofString s).Written := by
  intro name hname
  obtain ⟨hname, hidle⟩ := List.mem_filter.1 hname
  obtain ⟨piece, hpiece, rfl⟩ := List.mem_map.1 hname
  rw [String.toList_ofList]
  exact ⟨Text.notMem_of_mem_cut '/' s.toList piece hpiece, by simpa using hidle⟩

lemma Written.of_subset {q : Path} (h : p.Written) (hsub : q.parts ⊆ p.parts) : q.Written :=
  fun name hname => h name (hsub hname)

lemma Written.append (h : p.Written) {names : List String}
    (hnames : ∀ name ∈ names, '/' ∉ name.toList ∧ isIdle name = false) :
    (p.append names).Written := by
  intro name hname
  rcases List.mem_append.1 hname with hname | hname
  · exact h name hname
  · exact hnames name hname

lemma written_ofHome? {home : String} (h : ofHome? home = some p) : p.Written := by
  unfold ofHome? at h
  dsimp only at h
  split at h
  · cases h
  · cases h
    exact written_ofString _

/-- A home directory is written, too. -/
lemma Written.expandHome (h : p.Written) {homes : Homes} {path : Path}
    (hpath : p.expandHome homes = .ok path) : path.Written := by
  unfold Path.expandHome at hpath
  split at hpath
  · next first rest _ hparts =>
    have hrest : ∀ name ∈ rest, '/' ∉ name.toList ∧ isIdle name = false :=
      fun name hname => h name (by rw [hparts]; exact List.mem_cons_of_mem first hname)
    split at hpath
    · split at hpath
      · cases hpath
      · split at hpath
        · next home hhome =>
          cases hpath
          obtain ⟨text, -, hhome⟩ := Option.bind_eq_some_iff.1 hhome
          exact (written_ofHome? hhome).append hrest
        · cases hpath
    · cases hpath
      exact h
  · cases hpath
    exact h

end Written

/-! The text of a path. -/

section Text

variable {p : Path}

lemma toList_intercalate (parts : List String) :
    ("/".intercalate parts).toList = Text.glue '/' (parts.map String.toList) := by
  induction parts with
  | nil => rfl
  | cons name rest ih =>
    cases rest with
    | nil => simp [Text.glue]
    | cons next rest =>
      change _ = name.toList ++ '/' :: Text.glue '/' ((next :: rest).map String.toList)
      rw [String.intercalate_cons_cons, String.toList_append, String.toList_append, ih,
        List.append_assoc]
      rfl

lemma names_intercalate {parts : List String} (hne : parts ≠ [])
    (h : ∀ name ∈ parts, '/' ∉ name.toList) : names ("/".intercalate parts) = parts := by
  rw [names, toList_intercalate, Text.cut_glue]
  · simp
  · simpa using hne
  · simpa using h

lemma text_of_parts (h : p.isAbsolute = true ∨ p.parts ≠ []) :
    p.text = anchorText p.anchor ++ "/".intercalate p.parts := by
  rw [text, if_neg]
  rw [Bool.and_eq_true, decide_eq_true_eq, List.isEmpty_iff]
  rintro ⟨hhere, hempty⟩
  rcases h with h | h
  · simp [isAbsolute, hhere] at h
  · exact h hempty

lemma takeWhile_intercalate (h : p.Written) :
    ("/".intercalate p.parts).toList.takeWhile (· == '/') = [] := by
  rw [toList_intercalate]
  cases hparts : p.parts with
  | nil => rfl
  | cons name rest =>
    obtain ⟨hslash, hidle⟩ := h name (by rw [hparts]; exact List.mem_cons_self)
    rw [List.map_cons, Text.glue_cons]
    cases hname : name.toList with
    | nil =>
      rw [String.toList_eq_nil_iff] at hname
      subst hname
      cases hidle
    | cons c cs =>
      rw [hname, List.mem_cons, not_or] at hslash
      exact List.takeWhile_cons_of_neg (by simpa using Ne.symm hslash.1)

lemma anchorOf_text (h : p.Written) : anchorOf p.text = p.anchor := by
  have hnone := takeWhile_intercalate h
  obtain ⟨anchor, parts⟩ := p
  unfold text
  split
  · next hempty =>
    rw [Bool.and_eq_true, decide_eq_true_eq] at hempty
    exact hempty.1.symm
  · have hslashes : ∀ c ∈ (anchorText anchor).toList, (c == '/') = true := by
      cases anchor <;> simp [anchorText]
    unfold anchorOf
    rw [String.toList_append, List.takeWhile_append_of_pos hslashes, hnone, List.append_nil]
    cases anchor <;> rfl

/-- The names of a path can be read off its text, after some empty ones. -/
lemma exists_names_text (h : p.Written) (hne : p.isAbsolute = true ∨ p.parts ≠ []) :
    ∃ lead, names p.text = lead ++ p.parts ∧ ∀ name ∈ lead, name = "" := by
  have hslash : ∀ s : String, names ("/" ++ s) = "" :: names s := by
    intro s
    rw [names, String.toList_append]
    change (Text.cut '/' ('/' :: s.toList)).map _ = _
    rw [Text.cut, if_pos rfl]
    rfl
  have hparts : ∃ lead, names ("/".intercalate p.parts) = lead ++ p.parts ∧
      ∀ name ∈ lead, name = "" := by
    by_cases hempty : p.parts = []
    · rw [hempty]
      exact ⟨[""], rfl, by simp⟩
    · exact ⟨[], names_intercalate hempty fun name hname => (h name hname).1,
        List.forall_mem_nil _⟩
  obtain ⟨lead, hlead, hall⟩ := hparts
  rw [text_of_parts hne]
  cases p.anchor with
  | here => exact ⟨lead, by rw [anchorText, String.empty_append, hlead], hall⟩
  | root =>
    exact ⟨"" :: lead, by rw [anchorText, hslash, hlead]; rfl, List.forall_mem_cons.2 ⟨rfl, hall⟩⟩
  | doubleRoot =>
    refine ⟨"" :: "" :: lead, ?_, List.forall_mem_cons.2 ⟨rfl, List.forall_mem_cons.2 ⟨rfl, hall⟩⟩⟩
    change names ("/" ++ "/" ++ _) = _
    rw [String.append_assoc, hslash, hslash, hlead]
    rfl

lemma text_ne_empty (h : p.Written) : p.text ≠ "" := by
  intro hempty
  have hhere : p.anchor = .here := by rw [← anchorOf_text h, hempty]; rfl
  by_cases hparts : p.parts = []
  · have hdot : p.text = "." := by rw [text, hhere, hparts]; rfl
    rw [hdot] at hempty
    exact absurd hempty (by decide)
  · obtain ⟨name, rest, hname⟩ := List.exists_cons_of_ne_nil hparts
    obtain ⟨lead, hnames, -⟩ := exists_names_text h (.inr hparts)
    have hmem : name ∈ names p.text := by
      rw [hnames, hname]
      exact List.mem_append_right lead List.mem_cons_self
    rw [hempty] at hmem
    have hidle := (h name (by rw [hname]; exact List.mem_cons_self)).2
    rw [List.mem_singleton.1 hmem] at hidle
    cases hidle

lemma exists_intercalate_append (parts rest : List String) :
    ∃ tail, "/".intercalate (parts ++ rest) = "/".intercalate parts ++ tail := by
  by_cases hparts : parts = []
  · exact ⟨"/".intercalate rest, by rw [hparts]; rfl⟩
  by_cases hrest : rest = []
  · exact ⟨"", by rw [hrest, List.append_nil, String.append_empty]⟩
  · refine ⟨"/" ++ "/".intercalate rest, ?_⟩
    rw [String.intercalate_append_of_ne_nil hparts hrest, String.append_assoc]

/-- A path can be given to a system call. -/
def Callable (p : Path) : Prop :=
  '\x00' ∉ p.text.toList ∧ p.text.utf8ByteSize ≤ Disk.maxPath

/-- So can the paths above it. -/
lemma Callable.shorter {q : Path} (h : p.Callable) (hanchor : q.anchor = p.anchor)
    (hparts : q.parts <+: p.parts) : q.Callable := by
  by_cases hne : q.isAbsolute = true ∨ q.parts ≠ []
  · obtain ⟨rest, hrest⟩ := hparts
    have htext : ∃ tail, p.text = q.text ++ tail := by
      have hne' : p.isAbsolute = true ∨ p.parts ≠ [] := by
        refine hne.imp (fun habs => ?_) fun hq => ?_
        · rwa [isAbsolute, ← hanchor]
        · rw [← hrest]
          simp [hq]
      rw [text_of_parts hne, text_of_parts hne', hanchor, ← hrest]
      obtain ⟨tail, htail⟩ := exists_intercalate_append q.parts rest
      exact ⟨tail, by rw [htail, String.append_assoc]⟩
    obtain ⟨tail, htail⟩ := htext
    unfold Callable at h ⊢
    rw [htail, String.toList_append, List.mem_append, String.utf8ByteSize_append] at h
    exact ⟨fun hnull => h.1 (.inl hnull), by omega⟩
  · rw [not_or, not_not] at hne
    have htext : q.text = "." := by
      rw [text, if_pos]
      rw [Bool.and_eq_true, decide_eq_true_eq, List.isEmpty_iff]
      exact ⟨by simpa [isAbsolute] using hne.1, hne.2⟩
    rw [Callable, htext]
    decide

end Text
end Path
end SqlMargin
