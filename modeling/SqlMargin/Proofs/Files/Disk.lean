import Mathlib.Tactic.SplitIfs
import SqlMargin.Files.Replacement
import SqlMargin.Proofs.Outcome

/-! What calls do to a disk, location by location: each touches the locations it names and no other.
Paths that lead to a file lead to it whether or not a link at their end is followed. -/
namespace SqlMargin

namespace Disk

variable {d : Disk} {loc : List String}

/-- Only the root is a directory by itself. -/
lemma ne_nil_of_file {f : File} (h : d.node? loc = some (.file f)) : loc ≠ [] := by
  intro hnil
  rw [node?, if_pos hnil] at h
  cases h

lemma node?_put_of_ne (h : loc ≠ []) (n : Node) (l : List String) :
    (d.put loc n).node? l = if l = loc then some n else d.node? l := by
  by_cases hl : l = []
  · subst hl
    rw [if_neg (Ne.symm h)]
    rfl
  · exact d.node?_put loc l n hl

lemma node?_remove_of_ne (h : loc ≠ []) (l : List String) :
    (d.remove loc).node? l = if l = loc then none else d.node? l := by
  by_cases hl : l = []
  · subst hl
    rw [if_neg (Ne.symm h)]
    rfl
  · exact d.node?_remove loc l hl

lemma le_foldl_length (names : List String) (n : Nat) :
    n ≤ names.foldl (fun n s => max n s.length) n ∧
      ∀ s ∈ names, s.length ≤ names.foldl (fun n s => max n s.length) n := by
  induction names generalizing n with
  | nil => exact ⟨Nat.le_refl _, fun s hs => nomatch hs⟩
  | cons name names ih =>
    obtain ⟨hstart, hnames⟩ := ih (max n name.length)
    rw [List.foldl_cons]
    refine ⟨by omega, fun s hs => ?_⟩
    rcases List.mem_cons.1 hs with rfl | hs
    · omega
    · exact hnames s hs

/-- The fresh name is longer than all others, so nothing has it. -/
lemma node?_freshName (d : Disk) (directory : List String) :
    d.node? (directory ++ [d.freshName]) = none := by
  rw [node?, if_neg (by simp), List.lookup_eq_none_iff]
  intro e he
  apply bne_iff_ne.2
  intro heq
  have hmem : d.freshName ∈ d.nodes.flatMap (·.1) :=
    List.mem_flatMap.2 ⟨e, he, by rw [← heq]; simp⟩
  have hle := (le_foldl_length (d.nodes.flatMap (·.1)) 0).2 _ hmem
  have hlength : d.freshName.length =
      3 + (d.nodes.flatMap (·.1)).foldl (fun n s => max n s.length) 0 := by
    rw [freshName, String.length_ofList, List.length_append, List.length_replicate]
    rfl
  omega

/-- A disk with a file at a location, and otherwise as it was. -/
structure Gains (d d' : Disk) (loc : List String) (f : File) : Prop where
  file : d'.node? loc = some (.file f)
  others : ∀ l, l ≠ loc → d'.node? l = d.node? l

section Gains

variable {d' : Disk} {f : File}

lemma Gains.refl (h : d.node? loc = some (.file f)) : d.Gains d loc f := ⟨h, fun _ _ => rfl⟩

lemma hasLink_of_file (h : d.node? loc = some (.file f)) : d.hasLink loc = false := by
  rw [hasLink, h]

lemma gains_put (hloc : loc ≠ []) (f : File) :
    d.Gains (d.put loc (.file f)) loc f where
  file := (node?_put_of_ne hloc (.file f) loc).trans (if_pos rfl)
  others l hl := (node?_put_of_ne hloc (.file f) l).trans (if_neg hl)

lemma Gains.updateFile (h : d.Gains d' loc f) (change : File → File) :
    d.Gains (d'.updateFile loc change) loc (change f) := by
  have hput := gains_put (d := d') (ne_nil_of_file h.file) (change f)
  unfold Disk.updateFile
  rw [h.file]
  exact ⟨hput.file, fun l hl => (hput.others l hl).trans (h.others l hl)⟩

lemma gains_create (hloc : loc ≠ []) (u : User) (device : Nat) :
    ∃ f, d.Gains (d.create u loc device) loc f ∧ f.mode.owner = u.id := by
  have hput := gains_put (d := d) hloc
    { bytes := [], mode := .ofNew u (d.directoryMode loc.dropLast), inode := d.nextInode, device,
      modified := d.clock, accessed := d.clock }
  exact ⟨_, ⟨hput.file, hput.others⟩, rfl⟩

/-- A file that comes to stand in the place of another one. -/
lemma Gains.rename {target : List String} {g : File} (h : d.Gains d' loc f)
    (hfree : d.node? loc = none) (htarget : d.node? target = some (.file g)) :
    d.Gains (d'.rename loc target) target f := by
  have hloc := ne_nil_of_file h.file
  have hremoved := node?_remove_of_ne (d := d') hloc
  have hput := gains_put (d := d'.remove loc) (ne_nil_of_file htarget) f
  unfold Disk.rename
  rw [h.file]
  refine ⟨hput.file, fun l hl => (hput.others l hl).trans ?_⟩
  rw [hremoved]
  split
  · next hl => rw [hl, hfree]
  · next hl => exact h.others l hl

end Gains

/-- Following links at the end makes no difference to a way that does not end at one. -/
lemma walkTo_follow {u : User} {jump jump' : List String → List String → Except Errno (List String)}
    {here todo : List String} (hlink : ∀ t, d.node? loc ≠ some (.link t))
    (hjump : ∀ start names, jump start names = .ok loc → jump' start names = .ok loc)
    (h : d.walkTo u false jump here todo = .ok loc) : d.walkTo u true jump' here todo = .ok loc := by
  fun_induction d.walkTo u false jump here todo with
  | case1 here => exact h
  | case2 here rest ih =>
    rw [walkTo, if_pos rfl]
    exact ih h
  | case3 => cases h
  | case4 here rest henter hname ih =>
    rw [walkTo, if_neg hname, if_neg henter, if_pos rfl]
    exact ih h
  | case5 here rest henter hname hdot ih =>
    rw [walkTo, if_neg hname, if_neg henter, if_neg hdot, if_pos rfl]
    exact ih h
  | case6 => cases h
  | case7 => cases h
  | case8 here name rest hname henter hdot hdots hlong there mode hnode ih =>
    rw [walkTo, if_neg hname, if_neg henter, if_neg hdot, if_neg hdots, if_neg hlong]
    dsimp only
    rw [hnode]
    exact ih h
  | case9 here name rest hname henter hdot hdots hlong there f hnode hrest =>
    rw [walkTo, if_neg hname, if_neg henter, if_neg hdot, if_neg hdots, if_neg hlong]
    dsimp only
    rw [hnode]
    dsimp only
    rw [if_pos hrest]
    exact h
  | case10 => cases h
  | case11 here name rest hname henter hdot hdots hlong there t hnode hrest =>
    -- Only here is it looked at whether the last link is followed.
    rw [← Except.ok.inj h] at hlink
    exact absurd hnode (hlink t)
  | case12 here name rest hname henter hdot hdots hlong there t hnode hrest start =>
    rw [walkTo, if_neg hname, if_neg henter, if_neg hdot, if_neg hdots, if_neg hlong]
    dsimp only
    rw [hnode]
    dsimp only
    rw [if_neg (by simp)]
    exact hjump _ _ h

lemma walk_follow {u : User} {links : Nat} {here todo : List String}
    (h : d.walk u false links here todo = .ok loc) (hlink : ∀ t, d.node? loc ≠ some (.link t)) :
    d.walk u true links here todo = .ok loc := by
  induction links generalizing here todo with
  | zero =>
    refine walkTo_follow hlink (fun _ _ hloop => ?_) h
    cases hloop
  | succ links ih => exact walkTo_follow hlink (fun _ _ hjump => ih hjump) h

end Disk

namespace View

variable {v : View} {path : String} {loc : List String} {n : Node}

lemma node_eq_ok_iff {follow : Bool} :
    v.node follow path = .ok (loc, n) ↔
      v.locate follow path = .ok loc ∧ v.disk.node? loc = some n := by
  unfold node
  rw [bind_eq_ok_iff]
  constructor
  · rintro ⟨l, hl, h⟩
    split at h
    · next m hm =>
      cases h
      exact ⟨hl, hm⟩
    · cases h
  · rintro ⟨hl, hn⟩
    refine ⟨loc, hl, ?_⟩
    rw [hn]
    rfl

/-- A file that is found without following links is found by following them. -/
lemma node_follow {f : File} (h : v.node false path = .ok (loc, .file f)) :
    v.node true path = .ok (loc, .file f) := by
  obtain ⟨hloc, hnode⟩ := node_eq_ok_iff.1 h
  refine node_eq_ok_iff.2 ⟨?_, hnode⟩
  have hlink : ∀ t, v.disk.node? loc ≠ some (.link t) := by
    intro t ht
    rw [hnode] at ht
    cases ht
  unfold locate at hloc ⊢
  split_ifs at hloc ⊢
  all_goals
    have hwalk := eq_ok_of_mapError_eq_ok hloc
    dsimp only at hwalk ⊢
    rw [Disk.walk_follow hwalk hlink]
    rfl

lemma fileAt_eq_ok_iff {p : Path} {f : File} :
    v.fileAt p = .ok (loc, f) ↔ v.node false p.text = .ok (loc, .file f) := by
  unfold fileAt
  constructor
  · intro h
    split at h
    case h_5 l g hnode =>
      cases h
      exact hnode
    all_goals cases h
  · intro h
    rw [h]

/-- A file that is found without following links is the one that is read. -/
lemma readBytes_eq_ok_iff {p : Path} {f : File} {bytes : List UInt8}
    (hfile : v.fileAt p = .ok (loc, f)) :
    v.readBytes p = .ok bytes ↔ f.mode.mayRead v.user = true ∧ f.bytes = bytes := by
  unfold readBytes
  rw [node_follow (fileAt_eq_ok_iff.1 hfile)]
  exact ite_eq_ok_iff

end View
end SqlMargin
