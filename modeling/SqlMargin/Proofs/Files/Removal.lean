import Mathlib.Logic.Basic
import SqlMargin.Files.Resolve
import SqlMargin.Proofs.Files.Disk

/-! A disk from which a file is taken away. Paths that led to the file or beyond it lead nowhere,
and all others lead where they did; what they resolve to does not change. -/
namespace SqlMargin

/-- The view after what stands at a location is taken away. -/
def View.without (v : View) (loc : List String) : View := v.on (v.disk.remove loc)

namespace Disk

/-- Where names lead, before and after the file at a location is taken away. -/
inductive Cut (loc : List String) :
    Except Errno (List String) → Except Errno (List String) → Prop
  | same (x : Except Errno (List String)) : Cut loc x x
  | found : Cut loc (.ok loc) (.error .noEntry)
  | past : Cut loc (.error .notDirectory) (.error .noEntry)

lemma Cut.ite {loc : List String} {c : Prop} [Decidable c]
    {x x' y y' : Except Errno (List String)} (h : c → Cut loc x x') (h' : ¬ c → Cut loc y y') :
    Cut loc (if c then x else y) (if c then x' else y') := by
  split
  · next hc => exact h hc
  · next hc => exact h' hc

variable {d : Disk} {loc : List String} {f : File} (hfile : d.node? loc = some (.file f))

include hfile

lemma node?_remove_file (l : List String) :
    (d.remove loc).node? l = if l = loc then none else d.node? l :=
  node?_remove_of_ne (ne_nil_of_file hfile) l

/-- A file is no directory, so the modes of directories stay as they are. -/
lemma directoryMode_remove_file (l : List String) :
    (d.remove loc).directoryMode l = d.directoryMode l := by
  unfold directoryMode
  rw [node?_remove_file hfile]
  split_ifs with hl
  · rw [hl, hfile]
  · rfl

lemma cut_walkTo (u : User) (follow : Bool)
    {jump jump' : List String → List String → Except Errno (List String)}
    (hjump : ∀ start names, Cut loc (jump start names) (jump' start names))
    (here names : List String) :
    Cut loc (d.walkTo u follow jump here names) ((d.remove loc).walkTo u follow jump' here names) := by
  induction names generalizing here with
  | nil => exact .same _
  | cons name rest ih =>
    rw [walkTo, walkTo, directoryMode_remove_file hfile here]
    dsimp only
    refine .ite (fun _ => ih here) fun _ => .ite (fun _ => .same _) fun _ => ?_
    refine .ite (fun _ => ih here) fun _ => .ite (fun _ => ih here.dropLast) fun _ => ?_
    refine .ite (fun _ => .same _) fun _ => ?_
    rw [node?_remove_file hfile]
    by_cases hloc : here ++ [name] = loc
    · -- The names lead to the file: they end there, or try to go on.
      rw [if_pos hloc, hloc, hfile]
      dsimp only
      cases rest with
      | nil => exact .found
      | cons _ _ => exact .past
    · rw [if_neg hloc]
      cases d.node? (here ++ [name]) with
      | none => exact .same _
      | some n =>
        cases n with
        | file g => exact .same _
        | directory mode => exact ih _
        | link target => exact .ite (fun _ => .same _) fun _ => hjump _ _

lemma cut_walk (u : User) (follow : Bool) (links : Nat) (here names : List String) :
    Cut loc (d.walk u follow links here names) ((d.remove loc).walk u follow links here names) := by
  induction links generalizing here names with
  | zero => exact cut_walkTo hfile u follow (fun _ _ => .same _) here names
  | succ links ih => exact cut_walkTo hfile u follow ih here names

end Disk

namespace View

/-- What a path leads to, before and after a file is taken away. -/
inductive Cut (loc : List String) (f : File) :
    Except CallFault (List String × Node) → Except CallFault (List String × Node) → Prop
  | same (x : Except CallFault (List String × Node)) : Cut loc f x x
  | found : Cut loc f (.ok (loc, .file f)) (.error (.failed .noEntry))
  | past : Cut loc f (.error (.failed .notDirectory)) (.error (.failed .noEntry))

variable {v : View} {loc : List String} {f : File} (hfile : v.disk.node? loc = some (.file f))

include hfile

lemma cut_locate (follow : Bool) (path : String) :
    v.locate follow path = (v.without loc).locate follow path ∨
      ∃ x x', Disk.Cut loc x x' ∧ v.locate follow path = x.mapError .failed ∧
        (v.without loc).locate follow path = x'.mapError .failed := by
  unfold locate
  by_cases hnull : path.toList.contains '\x00' = true
  · rw [if_pos hnull, if_pos hnull]
    exact .inl rfl
  rw [if_neg hnull, if_neg hnull]
  by_cases hempty : path.isEmpty = true
  · rw [if_pos hempty, if_pos hempty]
    exact .inl rfl
  rw [if_neg hempty, if_neg hempty]
  by_cases hlong : Disk.maxPath < path.utf8ByteSize
  · rw [if_pos hlong, if_pos hlong]
    exact .inl rfl
  rw [if_neg hlong, if_neg hlong]
  exact .inr ⟨_, _, Disk.cut_walk hfile v.user follow Disk.maxLinks _ _, rfl, rfl⟩

lemma cut_node_of_locate {follow : Bool} {path : String}
    (h : v.locate follow path = (v.without loc).locate follow path) :
    Cut loc f (v.node follow path) ((v.without loc).node follow path) := by
  unfold node
  rw [h]
  cases (v.without loc).locate follow path with
  | error e => exact .same _
  | ok l =>
    simp only [bind, Except.bind, without, on_disk, Disk.node?_remove_file hfile]
    by_cases hl : l = loc
    · rw [if_pos hl, hl, hfile]
      exact .found
    · rw [if_neg hl]
      exact .same _

lemma cut_node (follow : Bool) (path : String) :
    Cut loc f (v.node follow path) ((v.without loc).node follow path) := by
  rcases cut_locate hfile follow path with hsame | ⟨x, x', hcut, hx, hx'⟩
  · exact cut_node_of_locate hfile hsame
  · cases hcut with
    | same => exact cut_node_of_locate hfile (hx.trans hx'.symm)
    | found =>
      unfold node
      rw [hx, hx']
      simp only [bind, Except.bind, Except.mapError, hfile]
      exact .found
    | past =>
      unfold node
      rw [hx, hx']
      exact .past

lemma followNames_without (inside : Path → List String → Seen → Followed) (path : Path)
    (names : List String) (seen : Seen) :
    (v.without loc).followNames false inside path names seen =
      v.followNames false inside path names seen := by
  induction names generalizing path seen with
  | nil => rfl
  | cons name rest ih =>
    simp only [followNames, ih]
    have hcut := cut_node hfile false (path.child name).text
    generalize v.node false (path.child name).text = x at hcut ⊢
    generalize (v.without loc).node false (path.child name).text = x' at hcut ⊢
    cases hcut <;> rfl

lemma follow_without (depth : Nat) :
    (v.without loc).follow false depth = v.follow false depth := by
  induction depth with
  | zero => exact funext₃ (followNames_without hfile _)
  | succ depth ih =>
    rw [follow, follow, ih]
    exact funext₃ (followNames_without hfile _)

/-- A path resolves to what it did, since it need not lead anywhere for that. -/
lemma resolve_without (p : Path) : (v.without loc).resolve false p = v.resolve false p := by
  have hnesting : (v.without loc).nesting = v.nesting := rfl
  have hcwd : (v.without loc).cwd = v.cwd := rfl
  unfold resolve
  simp only [hcwd, hnesting]
  rw [follow_without hfile]
  refine bind_congr fun (reached, _, _) => ?_
  dsimp only
  generalize Path.mk _ _ = location
  have hcut := cut_node hfile true location.text
  generalize v.node true location.text = x at hcut ⊢
  generalize (v.without loc).node true location.text = x' at hcut ⊢
  cases hcut <;> rfl

end View
end SqlMargin
