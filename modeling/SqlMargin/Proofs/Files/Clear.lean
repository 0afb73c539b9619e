import SqlMargin.Proofs.Files.Disk
import SqlMargin.Proofs.Files.Written

/-! Ways without links. Where names lead, double dots taken as one directory up, is known without a
look at the disk as long as no link stands on the way. A path that can be looked up has none if no
path above it is a link, nor the path itself. -/
namespace SqlMargin

namespace Path

/-- One name further on. -/
def enter (here : List String) (name : String) : List String :=
  if isIdle name then here else if name = ".." then here.dropLast else here ++ [name]

/-- Where names lead to from a directory if there are no links. -/
def reach (here names : List String) : List String := names.foldl enter here

lemma reach_cons (here : List String) (name : String) (names : List String) :
    reach here (name :: names) = reach (enter here name) names := rfl

lemma reach_append (here names more : List String) :
    reach here (names ++ more) = reach (reach here names) more := List.foldl_append

lemma collapse_eq_reach (names : List String) : collapse names = reach [] names := rfl

lemma enter_empty (here : List String) : enter here "" = here := rfl

lemma enter_dot (here : List String) : enter here "." = here := rfl

lemma enter_dots (here : List String) : enter here ".." = here.dropLast := rfl

lemma enter_of_plain {name : String} (hidle : isIdle name = false) (hdots : name ≠ "..")
    (here : List String) : enter here name = here ++ [name] := by
  rw [enter, hidle, if_neg (by simp), if_neg hdots]

/-- What is reached from the root has neither idle names nor double dots. -/
lemma plain_reach {here : List String} (h : ∀ name ∈ here, isIdle name = false ∧ name ≠ "..")
    (names : List String) : ∀ name ∈ reach here names, isIdle name = false ∧ name ≠ ".." := by
  induction names generalizing here with
  | nil => exact h
  | cons n names ih =>
    apply ih
    unfold enter
    split
    · exact h
    · split
      · exact fun name hname => h name (List.dropLast_subset here hname)
      · next hidle hdots =>
        intro name hname
        rcases List.mem_append.1 hname with hname | hname
        · exact h name hname
        · rw [List.mem_singleton.1 hname]
          exact ⟨by simpa using hidle, hdots⟩

end Path
open SqlMargin.Path (enter reach)

namespace Disk

/-- No link stands anywhere on the way, its start and its end included. -/
def Clear (d : Disk) (here names : List String) : Prop :=
  ∀ done, done <+: names → d.hasLink (reach here done) = false

section Clear

variable {d : Disk} {u : User} {here names : List String} {name : String}

lemma clear_nil_iff : d.Clear here [] ↔ d.hasLink here = false := by
  constructor
  · exact fun h => h [] (List.prefix_refl [])
  · intro h done hdone
    rw [List.prefix_nil.1 hdone]
    exact h

lemma clear_cons_iff :
    d.Clear here (name :: names) ↔ d.hasLink here = false ∧ d.Clear (enter here name) names := by
  constructor
  · intro h
    exact ⟨h [] List.nil_prefix,
      fun done hdone => h (name :: done) (List.cons_prefix_cons.2 ⟨rfl, hdone⟩)⟩
  · rintro ⟨hhere, hrest⟩ done hdone
    cases done with
    | nil => exact hhere
    | cons n done =>
      obtain ⟨rfl, hdone'⟩ := List.cons_prefix_cons.1 hdone
      exact hrest done hdone'

/-- A way up to its first link, if there is one: it can be gone without following that. -/
def StopsAtLink (d : Disk) (u : User) (here names : List String) : Prop :=
  ∃ done, done <+: names ∧ d.hasLink (reach here done) = true ∧
    ∀ jump, d.walkTo u false jump here done = .ok (reach here done)

/-- A name that leads to a directory leads on from there. -/
def Passes (d : Disk) (u : User) (here : List String) (name : String) : Prop :=
  ∀ jump done, d.walkTo u false jump here (name :: done) = d.walkTo u false jump (enter here name) done

lemma Passes.clear_or_stopsAtLink {loc : List String} (hpass : d.Passes u here name)
    (hhere : d.hasLink here = false)
    (h : d.hasLink (enter here name) = false →
      d.Clear (enter here name) names ∧ loc = reach (enter here name) names ∨
        d.StopsAtLink u (enter here name) names) :
    d.Clear here (name :: names) ∧ loc = reach here (name :: names) ∨
      d.StopsAtLink u here (name :: names) := by
  cases hlink : d.hasLink (enter here name) with
  | true =>
    exact .inr ⟨[name], List.cons_prefix_cons.2 ⟨rfl, List.nil_prefix⟩, hlink,
      fun jump => hpass jump []⟩
  | false =>
    rcases h hlink with ⟨hclear, hloc⟩ | ⟨done, hdone, hlink, hwalk⟩
    · exact .inl ⟨clear_cons_iff.2 ⟨hhere, hclear⟩, hloc⟩
    · exact .inr ⟨name :: done, List.cons_prefix_cons.2 ⟨rfl, hdone⟩, hlink,
        fun jump => (hpass jump done).trans (hwalk jump)⟩

lemma stopsAtLink_of_link {target : String} (hname : name ≠ "")
    (henter : ¬ (!(d.directoryMode here).mayEnter u) = true) (hdot : name ≠ ".") (hdots : name ≠ "..")
    (hlong : ¬ maxName < name.utf8ByteSize)
    (hnode : d.node? (here ++ [name]) = some (.link target)) (rest : List String) :
    d.StopsAtLink u here (name :: rest) := by
  have hthere : enter here name = here ++ [name] :=
    Path.enter_of_plain (by simp [Path.isIdle, hname, hdot]) hdots here
  refine ⟨[name], List.cons_prefix_cons.2 ⟨rfl, List.nil_prefix⟩, ?_, fun jump => ?_⟩
  · change d.hasLink (enter here name) = true
    rw [hthere, hasLink, hnode]
  · change _ = Except.ok (enter here name)
    rw [walkTo, if_neg hname, if_neg henter, if_neg hdot, if_neg hdots, if_neg hlong, hthere]
    dsimp only
    rw [hnode]
    rfl

/-- Names that lead somewhere do so without links on the way, or there is a first link. -/
lemma clear_or_stopsAtLink {jump : List String → List String → Except Errno (List String)}
    {loc : List String} (hhere : d.hasLink here = false)
    (h : d.walkTo u false jump here names = .ok loc) :
    d.Clear here names ∧ loc = reach here names ∨ d.StopsAtLink u here names := by
  -- The cases are those of the walk. It goes on, ends, or meets a link, which is the first one.
  fun_induction d.walkTo u false jump here names with
  | case1 here =>
    cases h
    exact .inl ⟨clear_nil_iff.2 hhere, rfl⟩
  | case2 here rest ih =>
    have hpass : d.Passes u here "" := fun jump done => by
      rw [walkTo, if_pos rfl, Path.enter_empty]
    exact hpass.clear_or_stopsAtLink hhere fun hlink => ih hlink h
  | case3 => cases h
  | case4 here rest henter hname ih =>
    have hpass : d.Passes u here "." := fun jump done => by
      rw [walkTo, if_neg hname, if_neg henter, if_pos rfl, Path.enter_dot]
    exact hpass.clear_or_stopsAtLink hhere fun hlink => ih hlink h
  | case5 here rest henter hname hdot ih =>
    have hpass : d.Passes u here ".." := fun jump done => by
      rw [walkTo, if_neg hname, if_neg henter, if_neg hdot, if_pos rfl, Path.enter_dots]
    exact hpass.clear_or_stopsAtLink hhere fun hlink => ih hlink h
  | case6 => cases h
  | case7 => cases h
  | case8 here name rest hname henter hdot hdots hlong there mode hnode ih =>
    have hthere : enter here name = there :=
      Path.enter_of_plain (by simp [Path.isIdle, hname, hdot]) hdots here
    have hpass : d.Passes u here name := fun jump done => by
      rw [walkTo, if_neg hname, if_neg henter, if_neg hdot, if_neg hdots, if_neg hlong, hthere]
      dsimp only
      rw [hnode]
    exact hpass.clear_or_stopsAtLink hhere (hthere ▸ fun hlink => ih hlink h)
  | case9 here name rest hname henter hdot hdots hlong there f hnode hrest =>
    have hthere : enter here name = there :=
      Path.enter_of_plain (by simp [Path.isIdle, hname, hdot]) hdots here
    rw [List.isEmpty_iff.1 hrest]
    refine .inl ⟨clear_cons_iff.2 ⟨hhere, clear_nil_iff.2 ?_⟩, ?_⟩
    · rw [hthere, hasLink_of_file hnode]
    · exact (Except.ok.inj h).symm.trans hthere.symm
  | case10 => cases h
  | case11 here name rest hname henter hdot hdots hlong there t hnode hrest =>
    exact .inr (stopsAtLink_of_link hname henter hdot hdots hlong hnode rest)
  | case12 here name rest hname henter hdot hdots hlong there t hnode hrest start =>
    exact .inr (stopsAtLink_of_link hname henter hdot hdots hlong hnode rest)

end Clear

lemma walkTo_lead (d : Disk) (u : User) (follow : Bool)
    (jump : List String → List String → Except Errno (List String)) (here : List String)
    {lead : List String} (h : ∀ name ∈ lead, name = "") (names : List String) :
    d.walkTo u follow jump here (lead ++ names) = d.walkTo u follow jump here names := by
  induction lead with
  | nil => rfl
  | cons name lead ih =>
    rw [List.forall_mem_cons] at h
    rw [List.cons_append, walkTo, if_pos h.1, ih h.2]

end Disk

namespace View

/-- The directory that a path is written from. -/
def origin (v : View) (p : Path) : List String := if p.isAbsolute then [] else v.cwd

variable {v : View} {p : Path} {loc : List String} {n : Node}

/-- A text that is written from a path leads along the names of that path. -/
lemma walk_text (follow : Bool) (h : p.Written) (hne : p.isAbsolute = true ∨ p.parts ≠ []) :
    v.disk.walk v.user follow Disk.maxLinks (if Path.anchorOf p.text != .here then [] else v.cwd)
        (Path.names p.text) =
      v.disk.walkTo v.user follow (v.disk.walk v.user follow (Disk.maxLinks - 1)) (v.origin p)
        p.parts := by
  have hstart : (if Path.anchorOf p.text != .here then [] else v.cwd) = v.origin p := by
    rw [Path.anchorOf_text h]
    rfl
  obtain ⟨lead, hnames, hlead⟩ := Path.exists_names_text h hne
  rw [hstart, hnames]
  exact v.disk.walkTo_lead v.user follow _ _ hlead _

/-- What a path leads to is found by going along its names. -/
lemma node_text_eq_ok_iff (h : p.Written) (hne : p.isAbsolute = true ∨ p.parts ≠ []) :
    v.node false p.text = .ok (loc, n) ↔ p.Callable ∧
      v.disk.walkTo v.user false (v.disk.walk v.user false (Disk.maxLinks - 1)) (v.origin p)
        p.parts = .ok loc ∧
      v.disk.node? loc = some n := by
  rw [node_eq_ok_iff, ← and_assoc]
  refine and_congr_left fun _ => ?_
  unfold locate
  dsimp only
  have hempty : ¬ p.text.isEmpty = true := by simpa using Path.text_ne_empty h
  rw [walk_text false h hne, Path.Callable, if_neg hempty]
  split
  · next hnull =>
    exact ⟨fun h => (by cases h), fun hc => absurd (by simpa using hnull) hc.1.1⟩
  · next hnull =>
    split
    · next hlong => exact ⟨fun h => (by cases h), fun hc => absurd hc.1.2 (by omega)⟩
    · next hlong =>
      constructor
      · intro hloc
        exact ⟨⟨by simpa using hnull, by omega⟩, eq_ok_of_mapError_eq_ok hloc⟩
      · rintro ⟨-, hloc⟩
        rw [hloc]
        rfl

/-- If neither a path nor one above it is a link, none is that it begins with. -/
lemma isLink_of_begins (hno : v.containsLink p = false) {done : List String}
    (hdone : done <+: p.parts) : v.isLink { p with parts := done } = false := by
  rw [containsLink, List.any_eq_false] at hno
  rw [← Bool.not_eq_true]
  apply hno
  have hlength := hdone.length_le
  have htake := List.prefix_iff_eq_take.1 hdone
  by_cases hall : done.length = p.parts.length
  · rw [hall, List.take_length] at htake
    rw [htake]
    exact List.mem_cons_self
  · refine List.mem_cons_of_mem p (List.mem_map.2 ⟨done.length, ?_, by rw [← htake]⟩)
    rw [List.mem_reverse, List.mem_range]
    omega

lemma isLink_eq_true_iff : v.isLink p = true ↔ ∃ loc t, v.node false p.text = .ok
    (loc, .link t) := by
  unfold isLink
  split
  · next loc t hnode => exact ⟨fun _ => ⟨loc, t, hnode⟩, fun _ => rfl⟩
  · next hnode =>
    constructor
    · intro h
      cases h
    · rintro ⟨loc, t, h⟩
      exact absurd h (hnode loc t)

lemma node?_of_hasLink (h : v.disk.hasLink loc = true) : ∃ t, v.disk.node? loc = some
    (.link t) := by
  unfold Disk.hasLink at h
  split at h
  · next t ht => exact ⟨t, ht⟩
  · cases h

/-- A path is not written from a link. -/
lemma hasLink_origin (hno : v.containsLink p = false) : v.disk.hasLink (v.origin p) = false := by
  unfold origin
  split
  · rfl
  · next hrelative =>
    rw [← Bool.not_eq_true]
    intro hlink
    obtain ⟨t, ht⟩ := node?_of_hasLink hlink
    have hdot : v.isLink { p with parts := [] } = true := by
      have hhere : p.anchor = .here := by simpa [Path.isAbsolute] using hrelative
      rw [isLink_eq_true_iff, hhere]
      have hmode : (v.disk.directoryMode v.cwd).mayEnter v.user = true := by
        rw [Disk.directoryMode, ht]
        exact Mode.mayEnter_plainDirectory v.user
      refine ⟨v.cwd, t, node_eq_ok_iff.2 ⟨?_, ht⟩⟩
      change (v.disk.walkTo v.user false _ v.cwd ["."]).mapError _ = _
      rw [Disk.walkTo, if_neg (by decide), if_neg (by simp [hmode]), if_pos rfl]
      rfl
    rw [isLink_of_begins hno List.nil_prefix] at hdot
    cases hdot

/-- No link stands on the way of a path that can be looked up, if neither the path nor one above it
is a link. -/
theorem clear_of_containsLink {found : List String × Node} (h : p.Written)
    (hno : v.containsLink p = false) (hfound : v.node false p.text = .ok found) :
    v.disk.Clear (v.origin p) p.parts := by
  have horigin := hasLink_origin hno
  by_cases hne : p.isAbsolute = true ∨ p.parts ≠ []
  · obtain ⟨hcallable, hwalk, -⟩ := (node_text_eq_ok_iff h hne).1 hfound
    rcases Disk.clear_or_stopsAtLink horigin hwalk with ⟨hclear, -⟩ | ⟨done, hdone, hlink, hstop⟩
    · exact hclear
    · exfalso
      let q : Path := { p with parts := done }
      have hq : q.isAbsolute = true ∨ q.parts ≠ [] := by
        refine .inr fun hnil => ?_
        change done = [] at hnil
        subst hnil
        exact Bool.noConfusion (horigin.symm.trans hlink)
      obtain ⟨t, ht⟩ := node?_of_hasLink hlink
      have hqlink : v.isLink q = true := by
        rw [isLink_eq_true_iff]
        refine ⟨_, t, (node_text_eq_ok_iff (h.of_subset hdone.subset) hq).2 ⟨?_, ?_, ht⟩⟩
        · exact hcallable.shorter rfl hdone
        · exact hstop _
      rw [isLink_of_begins hno hdone] at hqlink
      cases hqlink
  · rw [not_or, not_not] at hne
    rw [hne.2, Disk.clear_nil_iff]
    exact horigin

/-- A way without links is gone as it is written, and does not end at a link. -/
lemma node_of_clear (h : p.Written) (hne : p.isAbsolute = true ∨ p.parts ≠ [])
    (hclear : v.disk.Clear (v.origin p) p.parts) (hnode : v.node false p.text = .ok (loc, n)) :
    loc = reach (v.origin p) p.parts ∧ ∀ t, n ≠ .link t := by
  obtain ⟨-, hwalk, hn⟩ := (node_text_eq_ok_iff h hne).1 hnode
  have horigin : v.disk.hasLink (v.origin p) = false := hclear [] List.nil_prefix
  rcases Disk.clear_or_stopsAtLink horigin hwalk with ⟨-, hloc⟩ | ⟨done, hdone, hlink, -⟩
  · refine ⟨hloc, ?_⟩
    rintro t rfl
    have hend := hclear _ (List.prefix_refl _)
    rw [← hloc, Disk.hasLink, hn] at hend
    cases hend
  · rw [hclear done hdone] at hlink
    cases hlink

end View
end SqlMargin
