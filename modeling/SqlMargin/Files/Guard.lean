import SqlMargin.Files.Fault
import SqlMargin.Files.Resolve

/-! Guarded access to files: a SQL file is reached without links, lies under the working directory,
is not too large, and is the same file before and after it was read. -/
namespace SqlMargin

/-- The home directories that are known: one's own, and those of others by their names. -/
structure Homes where
  own : Option String
  ofUser : String → Option String := fun _ => none

/-- The home directory that a name with a leading `~` stands for. -/
def Homes.of? (homes : Homes) (name : String) : Option String :=
  if name = "~" then homes.own else homes.ofUser (String.ofList (name.toList.drop 1))

namespace Path

/-- The path of a home directory, unless that is itself written from one. -/
def ofHome? (home : String) : Option Path :=
  let kept := (home.toList.reverse.dropWhile (· == '/')).reverse
  if kept.head? = some '~' then none
  else some (ofString (if kept.isEmpty then "/" else String.ofList kept))

/-- A leading `~` stands for one's own home directory, with a name behind it for someone else's. No
one's name holds a null character. -/
def expandHome (p : Path) (homes : Homes) : Except PathFault Path :=
  match p.anchor, p.parts with
  | .here, first :: rest =>
    if first.toList.head? = some '~' then
      if first.toList.contains '\x00' then .error .nullByte
      else match (homes.of? first).bind ofHome? with
        | some home => .ok (home.append rest)
        | none => .error .noHome
    else .ok p
  | _, _ => .ok p

end Path

/-- What a path that cannot be resolved is refused for, unless links lead it in a circle. -/
def PathFault.ofResolve (path : Path) : ResolveFault → PathFault
  | .nullByte => .nullByte
  | .tooDeep => .tooDeep
  | .loop p => .loop p
  | .failed .noEntry _ => .missing path.text
  | .failed e p => .unresolved path.text ⟨e, some p⟩

/-- What tells one state of a file from another. -/
structure Stamp where
  inode : Nat
  device : Nat
  size : Nat
  modified : Int
  deriving DecidableEq, Repr

/-- What is known of a file without opening it. -/
structure Stat where
  stamp : Stamp
  mode : Mode
  accessed : Int
  deriving DecidableEq, Repr

def File.stat (f : File) : Stat :=
  ⟨⟨f.inode, f.device, f.bytes.length, f.modified⟩, f.mode, f.accessed⟩

namespace View

/-- Whether a path or one of the paths above it, as written, is a link. -/
def containsLink (v : View) (p : Path) : Bool := (p :: p.parents).any v.isLink

/-- Looks at a resolved path, which must name a SQL file under `base`. -/
def acceptSqlFile (v : View) (base resolved : Path) : Except PathFault Path :=
  match v.node true resolved.text with
  | .ok (_, .file _) =>
    if !resolved.isUnder base then .error (.outside resolved.text base.text)
    else if !sqlExtensions.contains (String.ofList (Text.lower resolved.suffix)) then
      .error (.notSql resolved.text)
    else .ok resolved
  | .error (.failed e) =>
    .error (if isAbsence e then .notRegular resolved.text else .system ⟨e, some resolved.text⟩)
  | _ => .error (.notRegular resolved.text)

/-- The location of a SQL file under `base`. -/
def sqlFile (v : View) (homes : Homes) (raw : String) (base : Path) : Except PathFault Path := do
  let path ← (Path.ofString raw).expandHome homes
  if v.containsLink path then throw (.throughLink path.text)
  let resolved ← (v.resolve true path).mapError (.ofResolve path)
  v.acceptSqlFile base resolved

/-- The regular file that a path names, and its location; a link is not followed. -/
def fileAt (v : View) (p : Path) : Except FileFault (List String × File) :=
  match v.node false p.text with
  | .error .nullByte => .error .nullByte
  | .error (.failed e) => .error (.inaccessible p.text ⟨e, some p.text⟩)
  | .ok (_, .link _) => .error (.isLink p.text)
  | .ok (_, .directory _) => .error (.notRegular p.text)
  | .ok (loc, .file f) => .ok (loc, f)

/-- Looks at a regular file without opening it. -/
def stat (v : View) (p : Path) : Except FileFault Stat := (v.fileAt p).map (·.2.stat)

/-- The bytes of a file, which may be reached through links and must be open to reading. -/
def readBytes (v : View) (p : Path) : Except FileFault (List UInt8) :=
  match v.node true p.text with
  | .error .nullByte => .error .nullByte
  | .error (.failed e) => .error (.unopened p.text ⟨e, some p.text⟩)
  | .ok (_, .file f) =>
    if f.mode.mayRead v.user then .ok f.bytes else .error (.unopened p.text ⟨.noAccess, some p.text⟩)
  | .ok (_, .directory m) =>
    let reason := if m.mayRead v.user then .isDirectory else .noAccess
    .error (.unopened p.text ⟨reason, some p.text⟩)
  | .ok (_, .link _) => .error (.unopened p.text ⟨.loop, some p.text⟩)

/-- The text of a file. -/
def read (v : View) (p : Path) : Except FileFault (List Char) := do
  (Text.Utf8.decode (← v.readBytes p)).mapError .undecodable

end View

/-- Refuses a file of more than `limit` bytes. -/
def Stat.enforceSize (s : Stat) (limit : Int) (p : Path) : Except FileFault Unit :=
  if limit < s.stamp.size then .error (.oversize p.text s.stamp.size limit) else .ok ()

/-- Refuses a file that is not in the state expected. -/
def Stat.ensureUnchanged (expected current : Stat) (p : Path) : Except FileFault Unit :=
  if expected.stamp = current.stamp then .ok () else .error (.changed p.text)

end SqlMargin
