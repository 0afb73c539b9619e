import SqlMargin.Command.Options
import SqlMargin.Command.Run
import SqlMargin.Proofs.Files.Safety

/-! Paths that are not accepted as those of SQL files. They are refused for what they are, which the
command reports as a wrong argument. Only where it cannot be found out what a path is does something
else happen: its home directory is not known, links lead it in a circle or too deep, or the location
that it is resolved to cannot be looked up. -/
namespace SqlMargin
open SqlMargin.Path (enter reach)

namespace Path

/-- A path is written from a home directory that is not known, or that is itself written from
one. -/
def Homeless (p : Path) (homes : Homes) : Prop :=
  ∃ name rest, p.anchor = .here ∧ p.parts = name :: rest ∧ name.toList.head? = some '~' ∧
    '\x00' ∉ name.toList ∧ ∀ home, homes.of? name = some home → home.toList.head? = some '~'

/-- Without the slashes at its end, a text that does not begin with one begins as before. -/
lemma head?_trimmed (s : List Char) :
    (s.reverse.dropWhile (· == '/')).reverse.head? = some '~' ↔ s.head? = some '~' := by
  induction s with
  | nil => rfl
  | cons c s ih =>
    rw [List.reverse_cons, List.dropWhile_append]
    by_cases hs : (s.reverse.dropWhile (· == '/')).isEmpty = true
    · rw [if_pos hs]
      by_cases hc : c = '/'
      · simp [hc]
      · simp [hc]
    · rw [if_neg hs, List.reverse_append]
      simp

lemma ofHome?_eq_none_iff {home : String} :
    ofHome? home = none ↔ home.toList.head? = some '~' := by
  unfold ofHome?
  dsimp only
  split
  · next h => exact ⟨fun _ => (head?_trimmed _).1 h, fun _ => rfl⟩
  · next h => exact ⟨nofun, fun hhead => absurd ((head?_trimmed _).2 hhead) h⟩

lemma homeless_iff {p : Path} {homes : Homes} {name : String} {rest : List String}
    (hanchor : p.anchor = .here) (hparts : p.parts = name :: rest) :
    p.Homeless homes ↔ name.toList.head? = some '~' ∧ '\x00' ∉ name.toList ∧
      (homes.of? name).bind ofHome? = none := by
  simp only [Option.bind_eq_none_iff, ofHome?_eq_none_iff]
  constructor
  · rintro ⟨first, others, -, hfirst, h⟩
    rw [hparts] at hfirst
    obtain ⟨rfl, -⟩ := List.cons.inj hfirst
    exact h
  · exact fun h => ⟨name, rest, hanchor, hparts, h⟩

/-- A leading `~` is made out, or its owner's name cannot be looked up at all, unless no home
directory is known. -/
lemma expandHome_eq_error_iff {p : Path} {homes : Homes} {f : PathFault} :
    p.expandHome homes = .error f ∧ f.isRefusal = false ↔ p.Homeless homes ∧ f = .noHome := by
  unfold expandHome
  split
  · next first rest hanchor hparts =>
    rw [homeless_iff hanchor hparts]
    by_cases htilde : first.toList.head? = some '~'
    · rw [if_pos htilde]
      split
      · next hnull =>
        have hmem : '\x00' ∈ first.toList := by simpa using hnull
        refine ⟨?_, fun h => absurd hmem h.1.2.1⟩
        rintro ⟨he, hrefusal⟩
        cases he
        cases hrefusal
      · next hnull =>
        have hnotMem : '\x00' ∉ first.toList := by simpa using hnull
        split
        · next home hhome =>
          refine ⟨fun h => (nomatch h.1), fun h => ?_⟩
          cases hhome.symm.trans h.1.2.2
        · next hnone =>
          constructor
          · rintro ⟨he, -⟩
            cases he
            exact ⟨⟨htilde, hnotMem, hnone⟩, rfl⟩
          · rintro ⟨-, rfl⟩
            exact ⟨rfl, rfl⟩
    · rw [if_neg htilde]
      exact ⟨fun h => (nomatch h.1), fun h => absurd h.1.1 htilde⟩
  · next hother =>
    refine ⟨fun h => (nomatch h.1), ?_⟩
    rintro ⟨⟨name, rest, hanchor, hparts, -⟩, -⟩
    exact absurd hparts (hother name rest hanchor)

end Path

namespace Disk

variable {d : Disk} {u : User} {here names : List String} {name : String} {follow : Bool} {e : Errno}

lemma StopsAtLink.not_clear (h : d.StopsAtLink u here names) : ¬ d.Clear here names := by
  obtain ⟨done, hdone, hlink, -⟩ := h
  exact fun hclear => Bool.noConfusion ((hclear done hdone).symm.trans hlink)

lemma not_clear_cons (h : ¬ d.Clear (enter here name) names) : ¬ d.Clear here (name :: names) :=
  mt (fun hclear => (clear_cons_iff.1 hclear).2) h

/-- How a look-up fails, apart from links. -/
def lookUpFaults : List Errno := [.noEntry, .noAccess, .notDirectory, .nameTooLong]

/-- Going along names fails in one of these ways, or behind a link. -/
lemma walkTo_eq_error {jump : List String → List String → Except Errno (List String)}
    (h : d.walkTo u follow jump here names = .error e) :
    e ∈ lookUpFaults ∨ ¬ d.Clear here names ∧ ∃ start rest, jump start rest = .error e := by
  fun_induction d.walkTo u follow jump here names with
  | case1 here => cases h
  | case2 here rest ih => exact (ih h).imp_right (And.imp_left not_clear_cons)
  | case3 =>
    cases h
    exact .inl (by decide)
  | case4 here rest henter hname ih => exact (ih h).imp_right (And.imp_left not_clear_cons)
  | case5 here rest henter hname hdot ih => exact (ih h).imp_right (And.imp_left not_clear_cons)
  | case6 =>
    cases h
    exact .inl (by decide)
  | case7 =>
    cases h
    exact .inl (by decide)
  | case8 here name rest hname henter hdot hdots hlong there mode hnode ih =>
    have hthere : enter here name = there :=
      Path.enter_of_plain (by simp [Path.isIdle, hname, hdot]) hdots here
    exact (ih h).imp_right (And.imp_left fun hclear => not_clear_cons (hthere ▸ hclear))
  | case9 => cases h
  | case10 =>
    cases h
    exact .inl (by decide)
  | case11 => cases h
  | case12 here name rest hname henter hdot hdots hlong there t hnode hrest start =>
    have hstop := stopsAtLink_of_link hname henter hdot hdots hlong hnode rest
    exact .inr ⟨hstop.not_clear, _, _, h⟩

/-- Links add that there are too many of them. -/
lemma walk_eq_error {links : Nat} (h : d.walk u follow links here names = .error e) :
    e ∈ lookUpFaults ∨ e = .loop := by
  induction links generalizing here names with
  | zero =>
    rcases walkTo_eq_error h with hplain | ⟨-, -, -, hjump⟩
    · exact .inl hplain
    · cases hjump
      exact .inr rfl
  | succ links ih =>
    rcases walkTo_eq_error h with hplain | ⟨-, start, rest, hjump⟩
    · exact .inl hplain
    · exact ih hjump

end Disk

namespace View

variable {v : View} {p r : Path} {here names : List String} {path : String} {follow : Bool}
  {e : Errno}

/-- Apart from links, a look-up fails for want of something on the way, or at its end. -/
lemma walk_of_node_eq_error (h : v.node follow path = .error (.failed e)) :
    e ∈ Disk.lookUpFaults ∨ v.disk.walk v.user follow Disk.maxLinks
      (if Path.anchorOf path != .here then [] else v.cwd) (Path.names path) = .error e := by
  unfold node at h
  cases hloc : v.locate follow path with
  | error f =>
    rw [hloc] at h
    cases h
    unfold locate at hloc
    split at hloc
    · cases hloc
    · split at hloc
      · cases hloc
        exact .inl (by decide)
      · split at hloc
        · cases hloc
          exact .inl (by decide)
        · obtain ⟨e', hwalk, he⟩ := exists_of_mapError_eq_error hloc
          cases he
          exact .inr hwalk
  | ok loc =>
    rw [hloc] at h
    dsimp only [bind, Except.bind] at h
    split at h
    · cases h
    · cases h
      exact .inl (by decide)

/-- How a look-up fails, links included. -/
lemma node_eq_error (h : v.node follow path = .error (.failed e)) :
    e ∈ Disk.lookUpFaults ∨ e = .loop :=
  (walk_of_node_eq_error h).elim .inl Disk.walk_eq_error

/-- Without links on the way there are never too many of them. -/
lemma node_ne_loop (h : p.Written) (hne : p.isAbsolute = true ∨ p.parts ≠ [])
    (hclear : v.disk.Clear (v.origin p) p.parts) : v.node false p.text ≠ .error (.failed .loop) := by
  intro hnode
  have hplain : Errno.loop ∉ Disk.lookUpFaults := by decide
  have hwalk := (walk_of_node_eq_error hnode).resolve_left hplain
  rw [walk_text false h hne] at hwalk
  exact ((Disk.walkTo_eq_error hwalk).resolve_left hplain).1 hclear

/-- Links lead in a circle or too deep, and that is how a path is told to fail. -/
inductive OfLinks : ResolveFault → PathFault → Prop
  | tooDeep : OfLinks .tooDeep .tooDeep
  | loop (q : String) : OfLinks (.loop q) (.loop q)

/-- Without links on the way there are none that do. -/
lemma not_ofLinks_followNames {inside : Path → List String → Seen → Followed} {seen : Seen}
    {g : ResolveFault} {f : PathFault} (hp : v.Tracks p here) (hclear : v.disk.Clear here names)
    (hslash : ∀ name ∈ names, '/' ∉ name.toList)
    (h : v.followNames true inside p names seen = .error g) : ¬ OfLinks g f := by
  induction names generalizing p here seen with
  | nil => cases h
  | cons name rest ih =>
    obtain ⟨hhere, hrest⟩ := Disk.clear_cons_iff.1 hclear
    rw [List.forall_mem_cons] at hslash
    have hlink : v.disk.hasLink (enter here name) = false := hrest [] List.nil_prefix
    rw [followNames] at h
    by_cases hidle : Path.isIdle name = true
    · have henter : enter here name = here := by rw [enter, if_pos hidle]
      rw [if_pos hidle] at h
      rw [henter] at hrest
      exact ih hp hrest hslash.2 h
    rw [if_neg hidle] at h
    by_cases hdots : name = ".."
    · subst hdots
      rw [if_pos rfl] at h
      exact ih (hp.up hlink) hrest hslash.2 h
    rw [if_neg hdots] at h
    have hnext := hp.child ⟨hslash.1, by simpa using hidle⟩ (fun _ => hdots) hlink
    have hne : (p.child name).isAbsolute = true ∨ (p.child name).parts ≠ [] :=
      .inr (by simp [Path.child])
    dsimp only at h
    split at h
    · cases h
      intro hlinks
      cases hlinks
    · next e hnode =>
      have hloop : e ≠ .loop := by
        rintro rfl
        exact node_ne_loop hnext.written hne hnext.clear hnode
      rw [if_pos rfl, if_neg hloop] at h
      cases h
      intro hlinks
      cases hlinks
    · next loc target hnode =>
      exact absurd rfl ((node_of_clear hnext.written hne hnext.clear hnode).2 target)
    · exact ih hnext hrest hslash.2 h

lemma not_ofLinks_resolve {g : ResolveFault} {f : PathFault} (hp : p.Written)
    (hclear : v.disk.Clear (v.origin p) p.parts) (h : v.resolve true p = .error g) :
    ¬ OfLinks g f := by
  have hslash : ∀ name ∈ p.parts, '/' ∉ name.toList := fun name hname => (hp name hname).1
  have hstart : v.Tracks (if p.isAbsolute then .ofLocation [] else ⟨.here, []⟩) (v.origin p) := by
    have hlink : v.disk.hasLink (v.origin p) = false := hclear [] List.nil_prefix
    unfold origin at hlink ⊢
    split at hlink
    · next habs =>
      rw [if_pos habs, if_pos habs]
      exact ⟨List.forall_mem_nil _, Disk.clear_nil_iff.2 rfl, rfl, fun _ => List.not_mem_nil⟩
    · next habs =>
      rw [if_neg habs, if_neg habs]
      exact ⟨List.forall_mem_nil _, Disk.clear_nil_iff.2 hlink, rfl, fun _ => List.not_mem_nil⟩
  rcases bind_eq_error_iff.1 h with hfollow | ⟨found, -, hfound⟩
  · generalize v.nesting.links = depth at hfollow
    cases depth with
    | zero => exact not_ofLinks_followNames hstart hclear hslash hfollow
    | succ depth => exact not_ofLinks_followNames hstart hclear hslash hfollow
  · dsimp only at hfound
    split at hfound <;> cases hfound

/-- How it cannot be found out what a path is, by the fault that is told. -/
inductive Fails (v : View) (homes : Homes) (raw : String) : PathFault → Prop
  | noHome (h : (Path.ofString raw).Homeless homes) : Fails v homes raw .noHome
  | links {p : Path} {g : ResolveFault} {f : PathFault}
      (hpath : (Path.ofString raw).expandHome homes = .ok p) (hno : v.containsLink p = false)
      (hresolve : v.resolve true p = .error g) (hlinks : OfLinks g f) : Fails v homes raw f
  | system {p r : Path} {e : Errno} (hpath : (Path.ofString raw).expandHome homes = .ok p)
      (hno : v.containsLink p = false) (hresolve : v.resolve true p = .ok r)
      (hnode : v.node true r.text = .error (.failed e)) (he : isAbsence e = false) :
      Fails v homes raw (.system ⟨e, some r.text⟩)

section Fails

variable {homes : Homes} {raw : String} {base : Path} {f : PathFault}

/-- A resolved path is refused if it can be looked up, or nothing is there. -/
lemma acceptSqlFile_eq_error_iff :
    v.acceptSqlFile base r = .error f ∧ f.isRefusal = false ↔
      ∃ e, v.node true r.text = .error (.failed e) ∧ isAbsence e = false ∧
        f = .system ⟨e, some r.text⟩ := by
  unfold acceptSqlFile
  rcases hnode : v.node true r.text with (_ | e) | ⟨loc, n⟩
  · refine ⟨?_, fun ⟨e, h, _⟩ => by cases h⟩
    rintro ⟨h, hf⟩
    cases h
    cases hf
  · dsimp only
    cases he : isAbsence e with
    | true =>
      refine ⟨?_, fun ⟨e', h, he', _⟩ => ?_⟩
      · rintro ⟨h, hf⟩
        cases h
        cases hf
      · cases h
        rw [he] at he'
        cases he'
    | false =>
      constructor
      · rintro ⟨h, -⟩
        cases h
        exact ⟨e, rfl, he, rfl⟩
      · rintro ⟨e', h, -, rfl⟩
        cases h
        exact ⟨rfl, rfl⟩
  · refine ⟨?_, fun ⟨e, h, _⟩ => by cases h⟩
    rintro ⟨h, hf⟩
    cases n with
    | file g =>
      dsimp only at h
      split_ifs at h <;> cases h <;> cases hf
    | directory m =>
      cases h
      cases hf
    | link t =>
      cases h
      cases hf

lemma ofLinks_ofResolve {g : ResolveFault} (h : (PathFault.ofResolve p g).isRefusal = false) :
    OfLinks g (PathFault.ofResolve p g) := by
  cases g with
  | nullByte => cases h
  | tooDeep => exact .tooDeep
  | loop q => exact .loop q
  | failed e q => cases e <;> cases h

lemma OfLinks.eq_ofResolve {g : ResolveFault} (h : OfLinks g f) :
    f = PathFault.ofResolve p g ∧ f.isRefusal = false := by
  cases h with
  | tooDeep => exact ⟨rfl, rfl⟩
  | loop q => exact ⟨rfl, rfl⟩

/-- A path is refused, unless it cannot be found out what it is. -/
lemma sqlFile_eq_error_iff :
    v.sqlFile homes raw base = .error f ∧ f.isRefusal = false ↔ v.Fails homes raw f := by
  constructor
  · rintro ⟨h, hf⟩
    rcases bind_eq_error_iff.1 h with hpath | ⟨path, hpath, h⟩
    · obtain ⟨hhome, rfl⟩ := Path.expandHome_eq_error_iff.1 ⟨hpath, hf⟩
      exact .noHome hhome
    cases hno : v.containsLink path with
    | true =>
      rw [hno, if_pos rfl] at h
      cases h
      cases hf
    | false =>
      rw [hno, if_neg (by simp)] at h
      rcases bind_eq_error_iff.1 h with hresolve | ⟨r, hresolve, haccept⟩
      · obtain ⟨g, hg, rfl⟩ := exists_of_mapError_eq_error hresolve
        exact .links hpath hno hg (ofLinks_ofResolve hf)
      · obtain ⟨e, hnode, he, rfl⟩ := acceptSqlFile_eq_error_iff.1 ⟨haccept, hf⟩
        exact .system hpath hno (eq_ok_of_mapError_eq_ok hresolve) hnode he
  · intro h
    cases h with
    | noHome hhome =>
      have hpath := (Path.expandHome_eq_error_iff.2 ⟨hhome, rfl⟩).1
      exact ⟨bind_eq_error_iff.2 (.inl hpath), rfl⟩
    | links hpath hno hresolve hlinks =>
      refine ⟨bind_eq_error_iff.2 (.inr ⟨_, hpath, ?_⟩), (hlinks.eq_ofResolve (p := base)).2⟩
      rw [hno, if_neg (by simp), hresolve, hlinks.eq_ofResolve.1]
      rfl
    | system hpath hno hresolve hnode he =>
      refine ⟨bind_eq_error_iff.2 (.inr ⟨_, hpath, ?_⟩), rfl⟩
      rw [hno, if_neg (by simp), hresolve]
      exact (acceptSqlFile_eq_error_iff.2 ⟨_, hnode, he, rfl⟩).1

lemma Fails.isRefusal (h : v.Fails homes raw f) : f.isRefusal = false := by
  cases h with
  | noHome => rfl
  | links _ _ _ hlinks => exact (hlinks.eq_ofResolve (p := Path.ofString raw)).2
  | system => rfl

/-- Only some faults of the system are told as they are. -/
theorem Fails.errno {g : OsFault} (h : v.Fails homes raw (.system g)) :
    g.errno = .noAccess ∨ g.errno = .nameTooLong := by
  cases h with
  | links _ _ _ hlinks => cases hlinks
  | @system p r e hpath hno hresolve hnode he =>
    rcases node_eq_error hnode with hmem | rfl
    · simp only [Disk.lookUpFaults, List.mem_cons, List.not_mem_nil, or_false] at hmem
      rcases hmem with rfl | rfl | rfl | rfl
      · cases he
      · exact .inl rfl
      · cases he
      · exact .inr rfl
    · cases he

/-- Links lead in a circle or too deep only behind a way that was written with links on it, and
these are overlooked only where that way cannot be gone as it was written. -/
lemma not_clear_of_links {g : ResolveFault} (hpath : (Path.ofString raw).expandHome homes = .ok p)
    (hno : v.containsLink p = false) (hresolve : v.resolve true p = .error g)
    (hlinks : OfLinks g f) :
    ¬ v.disk.Clear (v.origin p) p.parts ∧ ∀ found, v.node false p.text ≠ .ok found := by
  have hwritten := (Path.written_ofString raw).expandHome hpath
  have hnot : ¬ v.disk.Clear (v.origin p) p.parts :=
    fun hclear => not_ofLinks_resolve hwritten hclear hresolve hlinks
  exact ⟨hnot, fun found hfound => hnot (clear_of_containsLink hwritten hno hfound)⟩

lemma isRefusal_or_fails (h : v.sqlFile homes raw base = .error f) :
    f.isRefusal = true ∨ v.Fails homes raw f := by
  cases hrefusal : f.isRefusal with
  | true => exact .inl rfl
  | false => exact .inr (sqlFile_eq_error_iff.1 ⟨h, hrefusal⟩)

/-- It can be found out what a path is if its home directory is known, and it can be looked up as it
is written and as it is resolved. -/
lemma not_fails (hhome : ¬ (Path.ofString raw).Homeless homes)
    (hwritten : ∀ p, (Path.ofString raw).expandHome homes = .ok p →
      ∃ found, v.node false p.text = .ok found)
    (hresolved : ∀ p r, (Path.ofString raw).expandHome homes = .ok p → v.resolve true p = .ok r →
      ∃ found, v.node true r.text = .ok found) : ¬ v.Fails homes raw f := by
  intro hf
  cases hf with
  | noHome hnone => exact hhome hnone
  | links hpath hno hresolve hlinks =>
    obtain ⟨found, hfound⟩ := hwritten _ hpath
    exact (not_clear_of_links hpath hno hresolve hlinks).2 found hfound
  | system hpath hno hresolve hnode he =>
    obtain ⟨found, hfound⟩ := hresolved _ _ hpath hresolve
    rw [hfound] at hnode
    cases hnode

end Fails

/-- The command makes a wrong argument of what is refused, and ends with everything else. -/
lemma target_eq_error_iff {h : Command.Host} {raw : String} {e : Command.Ending} :
    Command.target h v raw = .error e ↔
      ∃ f, v.sqlFile h.homes raw (.ofLocation h.cwd) = .error f ∧
        (f.isRefusal = true ∧ e = .refused (h.kit.wrongFile f.message) ∨
          v.Fails h.homes raw f ∧ e = .crashed (.path f)) := by
  unfold Command.target
  constructor
  · intro he
    split at he
    · cases he
    · next f hf =>
      refine ⟨f, hf, ?_⟩
      rcases isRefusal_or_fails hf with hrefusal | hfails
      · rw [if_pos hrefusal] at he
        exact .inl ⟨hrefusal, (Except.error.inj he).symm⟩
      · rw [hfails.isRefusal, if_neg (by simp)] at he
        exact .inr ⟨hfails, (Except.error.inj he).symm⟩
  · rintro ⟨f, hf, ⟨hrefusal, rfl⟩ | ⟨hfails, rfl⟩⟩
    · rw [hf]
      exact congrArg Except.error (if_pos hrefusal)
    · rw [hf]
      exact congrArg Except.error (if_neg (by simp [hfails.isRefusal]))

/-- A file, and a link beside it that leads to itself. -/
def linkToItself : View where
  disk := { nodes := [
    (["l.sql"], .link "l.sql"),
    (["q.txt"], .file ⟨[], .plainFile, 1, 0, 0, 0⟩)] }
  cwd := []

/-- A directory that is named as someone else's home directory is written. -/
def likeHome : View where
  disk := { nodes := [
    (["~x"], .directory .plainDirectory),
    (["~x", "q.sql"], .file ⟨[], .plainFile, 1, 0, 0, 0⟩)] }
  cwd := []

end View
end SqlMargin
