import SqlMargin.Proofs.Files.Disk
import SqlMargin.Proofs.Text.Unindent
import SqlMargin.Text.Utf8

/-! Disks that are alike: they have the same directories and links, and files that differ at most in
the margins of what they hold. All paths lead to the same places on them. -/
namespace SqlMargin

/-- A user may read both files or neither, and they hold the same but for margins. -/
structure File.Alike (u : User) (f f' : File) : Prop where
  mayRead : f.mode.mayRead u = f'.mode.mayRead u
  text : Agree (fun t t' => flushLeft t = flushLeft t') (Text.Utf8.decode f.bytes)
    (Text.Utf8.decode f'.bytes)

namespace Disk

/-- At each location stands the same, or files that are alike. -/
def Alike (u : User) (d d' : Disk) : Prop :=
  ∀ loc, d.node? loc = d'.node? loc ∨ ∃ f f', File.Alike u f f' ∧
    d.node? loc = some (.file f) ∧ d'.node? loc = some (.file f')

namespace Alike

section Walk

variable {u : User} {d d' : Disk} (h : d.Alike u d')

include h

lemma directoryMode (loc : List String) : d.directoryMode loc = d'.directoryMode loc := by
  unfold Disk.directoryMode
  rcases h loc with hsame | ⟨f, f', -, hf, hf'⟩
  · rw [hsame]
  · rw [hf, hf']

lemma walkTo (follow : Bool) (jump : List String → List String → Except Errno (List String))
    (here names : List String) :
    d.walkTo u follow jump here names = d'.walkTo u follow jump here names := by
  induction names generalizing here with
  | nil => rfl
  | cons name rest ih =>
    rw [Disk.walkTo, Disk.walkTo, h.directoryMode here, ih, ih]
    dsimp only
    rcases h (here ++ [name]) with hsame | ⟨f, f', -, hf, hf'⟩
    · rw [hsame, ih]
    · rw [hf, hf']

lemma walk (follow : Bool) (links : Nat) : d.walk u follow links = d'.walk u follow links := by
  induction links with
  | zero => exact funext₂ (h.walkTo follow _)
  | succ links ih =>
    rw [Disk.walk, Disk.walk, ih]
    exact funext₂ (h.walkTo follow _)

end Walk

/-! Paths. -/

variable {v : View} {d : Disk} (h : v.disk.Alike v.user d)

include h

lemma locate (follow : Bool) (path : String) : v.locate follow path =
    (v.on d).locate follow path := by
  unfold View.locate
  rw [h.walk]
  rfl

/-- A path leads to the same, or to files that are alike. -/
lemma node (follow : Bool) (path : String) :
    v.node follow path = (v.on d).node follow path ∨
      ∃ loc f f', File.Alike v.user f f' ∧ v.node follow path = .ok (loc, .file f) ∧
        (v.on d).node follow path = .ok (loc, .file f') := by
  unfold View.node
  rw [h.locate]
  cases (v.on d).locate follow path with
  | error e => exact .inl rfl
  | ok loc =>
    simp only [bind, Except.bind, View.on_disk]
    rcases h loc with hsame | ⟨f, f', halike, hf, hf'⟩
    · exact .inl (by rw [hsame])
    · refine .inr ⟨loc, f, f', halike, ?_, ?_⟩
      · rw [hf]
        rfl
      · rw [hf']
        rfl

lemma isLink (p : Path) : v.isLink p = (v.on d).isLink p := by
  unfold View.isLink
  rcases h.node false p.text with hsame | ⟨loc, f, f', -, hf, hf'⟩
  · rw [hsame]
  · rw [hf, hf']

lemma containsLink (p : Path) : v.containsLink p = (v.on d).containsLink p := by
  unfold View.containsLink
  rw [funext h.isLink]

lemma followNames (strict : Bool) (inside : Path → List String → View.Seen → View.Followed)
    (path : Path) (names : List String) (seen : View.Seen) :
    v.followNames strict inside path names seen =
      (v.on d).followNames strict inside path names seen := by
  induction names generalizing path seen with
  | nil => rfl
  | cons name rest ih =>
    simp only [View.followNames, ih]
    rcases h.node false (path.child name).text with hsame | ⟨loc, f, f', -, hf, hf'⟩
    · rw [hsame]
    · rw [hf, hf']

lemma follow (strict : Bool) (depth : Nat) : v.follow strict depth =
    (v.on d).follow strict depth := by
  induction depth with
  | zero => exact funext₃ (h.followNames strict _)
  | succ depth ih =>
    rw [View.follow, View.follow, ih]
    exact funext₃ (h.followNames strict _)

lemma resolve (strict : Bool) (p : Path) : v.resolve strict p = (v.on d).resolve strict p := by
  unfold View.resolve
  dsimp only [View.on_nesting, View.on_cwd]
  rw [h.follow]
  refine bind_congr fun (reached, _, _) => ?_
  dsimp only
  generalize Path.mk _ _ = location
  rcases h.node true location.text with hsame | ⟨loc, f, f', -, hf, hf'⟩
  · rw [hsame]
  · rw [hf, hf']
    cases strict <;> rfl

lemma sqlFile (homes : Homes) (raw : String) (base : Path) :
    v.sqlFile homes raw base = (v.on d).sqlFile homes raw base := by
  unfold View.sqlFile
  refine bind_congr fun path => ?_
  rw [h.containsLink, h.resolve]
  cases (v.on d).containsLink path with
  | true => rfl
  | false =>
    simp only [Bool.false_eq_true, if_false]
    refine bind_congr fun resolved => ?_
    unfold View.acceptSqlFile
    rcases h.node true resolved.text with hsame | ⟨loc, f, f', -, hf, hf'⟩
    · rw [hsame]
    · rw [hf, hf']

end Alike
end Disk
end SqlMargin
