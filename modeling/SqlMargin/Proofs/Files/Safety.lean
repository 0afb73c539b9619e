import SqlMargin.Proofs.Files.Clear

/-! What is known of a path that is accepted as that of a SQL file. It is absolute and plain, it
names a regular file under the base, and no link stands on the way that was written, if that way can
be gone at all. -/
namespace SqlMargin
open SqlMargin.Path (enter reach)

namespace Disk

variable {d : Disk} {here names : List String} {name : String}

lemma Clear.shorter (h : d.Clear here names) {done : List String} (hdone : done <+: names) :
    d.Clear here done := fun _ hfirst => h _ (hfirst.trans hdone)

lemma Clear.concat (h : d.Clear here names)
    (hlink : d.hasLink (reach here (names ++ [name])) = false) : d.Clear here (names ++ [name]) := by
  intro done hdone
  rcases List.prefix_concat_iff.1 hdone with rfl | hdone
  · exact hlink
  · exact h done hdone

end Disk

namespace View

/-- A resolved path leads to a directory, without links on the way. Double dots are left at most at
its start, and only if it is not absolute. -/
structure Tracks (v : View) (p : Path) (here : List String) : Prop where
  written : p.Written
  clear : v.disk.Clear (v.origin p) p.parts
  reach : Path.reach (v.origin p) p.parts = here
  plain : p.isAbsolute = true → ".." ∉ p.parts

namespace Tracks

variable {v : View} {p : Path} {here : List String} {name : String}

lemma child (h : v.Tracks p here) (hname : '/' ∉ name.toList ∧ Path.isIdle name = false)
    (hdots : p.isAbsolute = true → name ≠ "..")
    (hlink : v.disk.hasLink (enter here name) = false) :
    v.Tracks (p.child name) (enter here name) := by
  have hreach : Path.reach (v.origin p) (p.parts ++ [name]) = enter here name := by
    rw [Path.reach_append, h.reach]
    rfl
  refine ⟨?_, h.clear.concat (by rw [hreach]; exact hlink), hreach, fun habs hmem => ?_⟩
  · exact h.written.append (by simpa using hname)
  · rcases List.mem_append.1 hmem with hmem | hmem
    · exact h.plain habs hmem
    · exact hdots habs (List.mem_singleton.1 hmem).symm

lemma up (h : v.Tracks p here) (hlink : v.disk.hasLink here.dropLast = false) :
    v.Tracks p.up here.dropLast := by
  unfold Path.up
  split
  · next hstart =>
    refine h.child ⟨by decide, by decide⟩ (fun habs => ?_) hlink
    rw [Bool.and_eq_true, decide_eq_true_eq] at hstart
    simp [Path.isAbsolute, hstart.1] at habs
  · next hstart =>
    have hparts : p.parts.dropLast <+: p.parts := List.dropLast_prefix p.parts
    refine ⟨h.written.of_subset hparts.subset, h.clear.shorter hparts, ?_,
      fun habs hmem => h.plain habs (hparts.subset hmem)⟩
    rw [← h.reach]
    change Path.reach (v.origin p) p.parts.dropLast = _
    rw [Bool.and_eq_true, decide_eq_true_eq] at hstart
    rcases List.eq_nil_or_concat p.parts with hnil | ⟨init, last, hlast⟩
    · have habs : p.isAbsolute = true := by simpa [hnil, Path.isAbsolute] using hstart
      rw [hnil, origin, if_pos habs]
      rfl
    · -- A double dot at the end would have had another one put behind it.
      have hdots : last ≠ ".." := by
        rintro rfl
        by_cases habs : p.isAbsolute = true
        · exact h.plain habs (by simp [hlast])
        · exact hstart (by simpa [hlast, Path.isAbsolute] using habs)
      have hidle := (h.written last (by simp [hlast])).2
      rw [hlast, List.concat_eq_append, List.dropLast_concat, Path.reach_append]
      change _ = (enter _ last).dropLast
      rw [Path.enter_of_plain hidle hdots, List.dropLast_concat]

end Tracks

section Resolve

variable {v : View} {p reached : Path} {here names : List String}

/-- Where no links are on the way every name is taken as it is written. -/
lemma followNames_of_clear {inside : Path → List String → Seen → Followed}
    {seen seen' : Seen} {resolved : Bool} (hp : v.Tracks p here)
    (hclear : v.disk.Clear here names) (hslash : ∀ name ∈ names, '/' ∉ name.toList)
    (h : v.followNames true inside p names seen = .ok (reached, resolved, seen')) :
    v.Tracks reached (reach here names) ∧ reached.anchor = p.anchor := by
  induction names generalizing p here seen with
  | nil =>
    cases h
    exact ⟨hp, rfl⟩
  | cons name rest ih =>
    obtain ⟨hhere, hrest⟩ := Disk.clear_cons_iff.1 hclear
    rw [List.forall_mem_cons] at hslash
    have hlink : v.disk.hasLink (enter here name) = false := hrest [] List.nil_prefix
    rw [followNames] at h
    by_cases hidle : Path.isIdle name = true
    · have henter : enter here name = here := by rw [enter, if_pos hidle]
      rw [if_pos hidle] at h
      rw [henter] at hrest
      rw [Path.reach_cons, henter]
      exact ih hp hrest hslash.2 h
    rw [if_neg hidle] at h
    by_cases hdots : name = ".."
    · subst hdots
      rw [if_pos rfl] at h
      obtain ⟨htracks, hanchor⟩ := ih (hp.up hlink) hrest hslash.2 h
      refine ⟨htracks, hanchor.trans ?_⟩
      unfold Path.up
      split <;> rfl
    rw [if_neg hdots] at h
    have hnext := hp.child ⟨hslash.1, by simpa using hidle⟩ (fun _ => hdots) hlink
    dsimp only at h
    split at h
    · cases h
    · rw [if_pos rfl] at h
      cases h
    · next loc target hnode =>
      have hne : (p.child name).isAbsolute = true ∨ (p.child name).parts ≠ [] :=
        .inr (by simp [Path.child])
      exact absurd rfl ((node_of_clear hnext.written hne hnext.clear hnode).2 target)
    · exact ih (p := p.child name) hnext hrest hslash.2 h

lemma follow_of_clear {depth : Nat} {seen seen' : Seen} {resolved : Bool} (hp : v.Tracks p here)
    (hclear : v.disk.Clear here names) (hslash : ∀ name ∈ names, '/' ∉ name.toList)
    (h : v.follow true depth p names seen = .ok (reached, resolved, seen')) :
    v.Tracks reached (reach here names) ∧ reached.anchor = p.anchor := by
  cases depth with
  | zero => exact followNames_of_clear hp hclear hslash h
  | succ depth => exact followNames_of_clear hp hclear hslash h

/-- What is resolved is brought to a location at the end. -/
lemma exists_follow {strict : Bool} {r : Path} (h : v.resolve strict p = .ok r) :
    ∃ reached resolved seen,
      v.follow strict v.nesting.links
        (if p.isAbsolute then .ofLocation [] else ⟨.here, []⟩) p.parts [] =
          .ok (reached, resolved, seen) ∧
      r.anchor = (if reached.isAbsolute then reached.anchor else .root) ∧
      r.parts = Path.collapse
        (if reached.isAbsolute then reached.parts else v.cwd ++ reached.parts) := by
  obtain ⟨⟨reached, resolved, seen⟩, hfollow, h⟩ := bind_eq_ok_iff.1 h
  refine ⟨reached, resolved, seen, hfollow, ?_⟩
  dsimp only at h
  split at h
  · cases h
  · cases h
    by_cases habs : reached.isAbsolute = true
    · simp only [if_pos habs, and_self]
    · simp only [if_neg habs]
      exact ⟨rfl, rfl⟩

/-- A path is resolved to one that is absolute and plain. -/
lemma resolve_plain {strict : Bool} {r : Path} (h : v.resolve strict p = .ok r) :
    r.isAbsolute = true ∧ ∀ name ∈ r.parts, Path.isIdle name = false ∧ name ≠ ".." := by
  obtain ⟨reached, resolved, seen, -, hanchor, hparts⟩ := exists_follow h
  constructor
  · rw [Path.isAbsolute, hanchor]
    split
    · next habs => exact habs
    · rfl
  · rw [hparts, Path.collapse_eq_reach]
    exact Path.plain_reach (by simp) _

/-- Without links on the way, it is resolved to where its names lead. -/
lemma resolve_of_clear {r : Path} (hcwd : Path.collapse v.cwd = v.cwd) (hp : p.Written)
    (hclear : v.disk.Clear (v.origin p) p.parts) (h : v.resolve true p = .ok r) :
    r.parts = reach (v.origin p) p.parts := by
  obtain ⟨reached, resolved, seen, hfollow, -, hparts⟩ := exists_follow h
  have hslash : ∀ name ∈ p.parts, '/' ∉ name.toList := fun name hname => (hp name hname).1
  have hstart : v.disk.hasLink (v.origin p) = false := hclear [] List.nil_prefix
  rw [hparts, Path.collapse_eq_reach]
  by_cases habs : p.isAbsolute = true
  · have horigin : v.origin p = [] := if_pos habs
    rw [horigin] at hclear ⊢
    have htracks : v.Tracks (.ofLocation []) [] :=
      ⟨List.forall_mem_nil _, Disk.clear_nil_iff.2 rfl, rfl, fun _ => List.not_mem_nil⟩
    rw [if_pos habs] at hfollow
    obtain ⟨hreached, hanchor⟩ := follow_of_clear htracks hclear hslash hfollow
    have habs' : reached.isAbsolute = true := by
      rw [Path.isAbsolute, hanchor]
      rfl
    rw [if_pos habs', ← hreached.reach, origin, if_pos habs']
  · have horigin : v.origin p = v.cwd := if_neg habs
    rw [horigin] at hclear hstart ⊢
    have htracks : v.Tracks ⟨.here, []⟩ v.cwd :=
      ⟨List.forall_mem_nil _, Disk.clear_nil_iff.2 hstart, rfl, fun _ => List.not_mem_nil⟩
    rw [if_neg habs] at hfollow
    obtain ⟨hreached, hanchor⟩ := follow_of_clear htracks hclear hslash hfollow
    have habs' : ¬ reached.isAbsolute = true := by
      rw [Path.isAbsolute, hanchor]
      decide
    have hwhole := hreached.reach
    rw [origin, if_neg habs'] at hwhole
    rw [if_neg habs', Path.reach_append, ← Path.collapse_eq_reach v.cwd, hcwd, hwhole]

end Resolve

/-- What is asked of a resolved path before it is accepted. -/
lemma acceptSqlFile_eq_ok_iff {v : View} {base resolved r : Path} :
    v.acceptSqlFile base resolved = .ok r ↔ resolved = r ∧
      (∃ loc f, v.node true r.text = .ok (loc, .file f)) ∧ r.isUnder base = true ∧
      String.ofList (Text.lower r.suffix) ∈ sqlExtensions := by
  unfold acceptSqlFile
  constructor
  · intro h
    split at h
    · next loc f hnode =>
      split at h
      · cases h
      · next hunder =>
        split at h
        · cases h
        · next hsuffix =>
          cases h
          exact ⟨rfl, ⟨loc, f, hnode⟩, by simpa using hunder, by simpa using hsuffix⟩
    · cases h
    · cases h
  · rintro ⟨rfl, ⟨loc, f, hnode⟩, hunder, hsuffix⟩
    rw [hnode]
    simp [hunder, hsuffix]

/-- What is asked of a path before it is accepted. -/
lemma exists_of_sqlFile {v : View} {homes : Homes} {raw : String} {base r : Path}
    (h : v.sqlFile homes raw base = .ok r) :
    ∃ path, (Path.ofString raw).expandHome homes = .ok path ∧ v.containsLink path = false ∧
      v.resolve true path = .ok r ∧ (∃ loc f, v.node true r.text = .ok (loc, .file f)) ∧
      r.isUnder base = true ∧ String.ofList (Text.lower r.suffix) ∈ sqlExtensions := by
  obtain ⟨path, hpath, h⟩ := bind_eq_ok_iff.1 h
  have hno : v.containsLink path = false := by
    rw [← Bool.not_eq_true]
    intro hlink
    rw [if_pos hlink] at h
    cases h
  rw [hno, if_neg (by simp)] at h
  obtain ⟨resolved, hresolve, haccept⟩ := bind_eq_ok_iff.1 h
  obtain ⟨rfl, hfile⟩ := acceptSqlFile_eq_ok_iff.1 haccept
  exact ⟨path, hpath, hno, eq_ok_of_mapError_eq_ok hresolve, hfile⟩

/-- A path that is accepted as that of a SQL file. It is absolute, with neither idle names nor
double dots, and names a regular file, under the base and with an extension of SQL files. If no link
stands on the way as it was written, it is the end of that way; and none does if the path can be
looked up as it was written. -/
theorem sqlFile_safe {v : View} {homes : Homes} {raw : String} {base r : Path}
    (hcwd : Path.collapse v.cwd = v.cwd) (h : v.sqlFile homes raw base = .ok r) :
    ∃ path, (Path.ofString raw).expandHome homes = .ok path ∧
      r.isAbsolute = true ∧ (∀ name ∈ r.parts, Path.isIdle name = false ∧ name ≠ "..") ∧
      (∃ loc f, v.node true r.text = .ok (loc, .file f)) ∧
      r.anchor = base.anchor ∧ base.parts <+: r.parts ∧
      String.ofList (Text.lower r.suffix) ∈ sqlExtensions ∧
      (v.disk.Clear (v.origin path) path.parts → r.parts = reach (v.origin path) path.parts) ∧
      ((∃ found, v.node false path.text = .ok found) →
        v.disk.Clear (v.origin path) path.parts) := by
  obtain ⟨path, hpath, hno, hresolve, hnode, hunder, hsuffix⟩ := exists_of_sqlFile h
  have hwritten := (Path.written_ofString raw).expandHome hpath
  obtain ⟨habs, hplain⟩ := resolve_plain hresolve
  rw [Path.isUnder, Bool.and_eq_true, beq_iff_eq, List.isPrefixOf_iff_prefix] at hunder
  exact ⟨path, hpath, habs, hplain, hnode, hunder.1, hunder.2, hsuffix,
    fun hclear => resolve_of_clear hcwd hwritten hclear hresolve,
    fun ⟨_, hfound⟩ => clear_of_containsLink hwritten hno hfound⟩

/-- A file in the working directory that is written with a way through another directory. -/
def besideWork : View where
  disk := { nodes := [
    (["work"], .directory .plainDirectory),
    (["work", "old"], .directory .plainDirectory),
    (["work", "q.SQL"], .file ⟨[], .plainFile, 1, 0, 0, 0⟩)] }
  cwd := ["work"]

theorem sqlFile_safe_besideWork :
    besideWork.sqlFile { own := some "/" } "./old//../q.SQL" (.ofLocation ["work"]) =
        .ok (.ofLocation ["work", "q.SQL"]) ∧
      besideWork.disk.Clear ["work"] ["old", "..", "q.SQL"] ∧
      reach ["work"] ["old", "..", "q.SQL"] = ["work", "q.SQL"] := by
  have hfile :
      besideWork.sqlFile { own := some "/" } "./old//../q.SQL" (.ofLocation ["work"]) =
        .ok (.ofLocation ["work", "q.SQL"]) := by decide +kernel
  obtain ⟨path, hpath, -, -, -, -, -, -, hend, hclear⟩ := sqlFile_safe (by decide) hfile
  have hparts : (Path.ofString "./old//../q.SQL").expandHome { own := some "/" } =
      .ok ⟨.here, ["old", "..", "q.SQL"]⟩ := by decide +kernel
  cases hparts.symm.trans hpath
  have hfound : besideWork.node false "old/../q.SQL" =
      .ok (["work", "q.SQL"], .file ⟨[], .plainFile, 1, 0, 0, 0⟩) :=
    by decide +kernel
  have hway := hclear ⟨_, hfound⟩
  exact ⟨hfile, hway, (hend hway).symm⟩

/-- A file, and a link beside it to another one. -/
def linkBeside : View where
  disk := { nodes := [
    (["link.sql"], .link "real.sql"),
    (["q.txt"], .file ⟨[], .plainFile, 1, 0, 0, 0⟩),
    (["real.sql"], .file ⟨[], .plainFile, 2, 0, 0, 0⟩)] }
  cwd := []

/-- What is written behind a file that is no directory cannot be looked up, so that the link there
is overlooked, and followed all the same. -/
theorem sqlFile_linkBeside :
    let path : Path := ⟨.here, ["q.txt", "..", "link.sql"]⟩
    (Path.ofString "q.txt/../link.sql").expandHome { own := some "/" } = .ok path ∧
      linkBeside.sqlFile { own := some "/" } "q.txt/../link.sql" (.ofLocation []) =
        .ok (.ofLocation ["real.sql"]) ∧
      ¬ linkBeside.disk.Clear (linkBeside.origin path) path.parts ∧
      reach (linkBeside.origin path) path.parts ≠ ["real.sql"] := by
  refine ⟨by decide +kernel, by decide +kernel, fun hclear => ?_, by decide⟩
  have hlink : linkBeside.disk.hasLink ["link.sql"] = true := by decide
  exact Bool.noConfusion ((hclear _ (List.prefix_refl _)).symm.trans hlink)

end View
end SqlMargin
