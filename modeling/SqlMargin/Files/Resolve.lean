import SqlMargin.Files.Disk

/-! Resolving a path: the location it leads to, with every link on the way followed. Double dots are
taken off the part resolved so far. -/
namespace SqlMargin

/-- Why a path cannot be resolved. The last two tell the path that was looked up. -/
inductive ResolveFault where
  | nullByte
  /-- Links lead to links more deeply than is followed. -/
  | tooDeep
  | failed (e : Errno) (path : String)
  | loop (path : String)
  deriving DecidableEq, Repr

namespace Path

/-- One directory up from a path without links. -/
def up (p : Path) : Path :=
  if p.anchor = .here && (p.parts.isEmpty || p.parts.getLast? = some "..") then p.child ".."
  else p.parent

def append (p : Path) (names : List String) : Path := { p with parts := p.parts ++ names }

/-- A path with written names behind it. If they are written from a root, they lead on from there
instead. -/
def join (p : Path) (names : List String) : Path :=
  match anchorOf ("/".intercalate names) with
  | .here => p.append names
  | anchor => ⟨anchor, names⟩

/-- Names with idle ones and double dots taken out. -/
def collapse (names : List String) : List String :=
  names.foldl (fun done n =>
    if isIdle n then done else if n = ".." then done.dropLast else done ++ [n]) []

end Path

namespace View

/-- Links on the way, each with where it leads once that is known. -/
abbrev Seen := List (Path × Option Path)

/-- What comes of following names: the path reached, whether all of them could be resolved, and the
links on the way. -/
abbrev Followed := Except ResolveFault (Path × Bool × Seen)

/-- Follows names from a resolved path; `inside` follows the names in a link. From a link that leads
back to itself on, names are left as they are written. With `strict` set every name must exist. -/
def followNames (v : View) (strict : Bool) (inside : Path → List String → Seen → Followed)
    (path : Path) (names : List String) (seen : Seen) : Followed :=
  match names with
  | [] => .ok (path, true, seen)
  | name :: rest =>
    if Path.isIdle name then v.followNames strict inside path rest seen
    else if name = ".." then v.followNames strict inside path.up rest seen
    else
      let next := path.child name
      let unresolved : Followed :=
        if strict then .error (.loop next.text) else .ok (next.join rest, false, seen)
      match v.node false next.text with
      | .error .nullByte => .error .nullByte
      | .error (.failed e) =>
        if strict then .error (if e = .loop then .loop next.text else .failed e next.text)
        else v.followNames strict inside next rest seen
      | .ok (_, .link target) =>
        match seen.lookup next with
        | some (some known) => v.followNames strict inside known rest seen
        | some none => unresolved
        | none => do
          let start := if Path.anchorOf target = .here then path else Path.ofLocation []
          let (reached, resolved, seen) ← inside start (Path.names target) ((next, none) :: seen)
          if resolved then
            v.followNames strict inside reached rest ((next, some reached) :: seen)
          else pure (reached.join rest, false, seen)
      | .ok _ => v.followNames strict inside next rest seen

/-- Follows names from a resolved path. `depth` bounds the links inside links. -/
def follow (v : View) (strict : Bool) : Nat → Path → List String → Seen → Followed
  | 0 => v.followNames strict fun _ _ _ => .error .tooDeep
  | depth + 1 => v.followNames strict (v.follow strict depth)

/-- The absolute location that a path leads to. -/
def resolve (v : View) (strict : Bool) (p : Path) : Except ResolveFault Path := do
  let start : Path := if p.isAbsolute then .ofLocation [] else ⟨.here, []⟩
  let (reached, _, _) ← v.follow strict v.nesting.links start p.parts []
  let absolute : Path :=
    if reached.isAbsolute then reached else .ofLocation (v.cwd ++ reached.parts)
  let location := { absolute with parts := Path.collapse absolute.parts }
  match strict, v.node true location.text with
  | false, .error (.failed .loop) => throw (.loop location.text)
  | _, _ => pure location

end View
end SqlMargin
