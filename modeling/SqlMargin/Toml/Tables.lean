import SqlMargin.Value

/-! Tables under construction: which of them are complete, and which may still grow. -/
namespace SqlMargin.Toml

abbrev Entries := List (String × Value)

/-- Puts a value in the place of the one under a key. -/
def replaceEntry (k : String) (v : Value) (t : Entries) : Entries :=
  t.map fun e => if e.1 = k then (k, v) else e

/-- Changes the table at the end of a path. Tables missing on the way are made; an array of tables
stands for its last one, if arrays may be entered. -/
def alter? (arrays : Bool) (f : Entries → Option Entries) : List String → Entries → Option Entries
  | [], t => f t
  | k :: path, t =>
    match t.lookup k with
    | none => (alter? arrays f path []).map fun sub => t ++ [(k, .table sub)]
    | some (.table sub) => (alter? arrays f path sub).map fun sub => replaceEntry k (.table sub) t
    | some (.list items) =>
      match arrays, items.getLast? with
      | true, some (.table sub) =>
        (alter? arrays f path sub).map fun sub =>
          replaceEntry k (.list (items.dropLast ++ [.table sub])) t
      | _, _ => none
    | some _ => none

/-- Adds an entry under a new key. -/
def addNew? (k : String) (v : Value) (t : Entries) : Option Entries :=
  if t.any (·.1 == k) then none else some (t ++ [(k, v)])

/-- Adds an empty table to an array of tables, which is made if it is missing. -/
def addTable? (k : String) (t : Entries) : Option Entries :=
  match t.lookup k with
  | none => some (t ++ [(k, .list [.table []])])
  | some (.list items) => some (replaceEntry k (.list (items ++ [.table []])) t)
  | some _ => none

def isContainer : Value → Bool
  | .table _ => true
  | .list _ => true
  | _ => false

/-- A document being read: its entries, the table that entries now go to, and the paths that can no
longer be opened (`closed`) or changed below (`frozen`). Paths in `pending` close at the next
table header. -/
structure Draft where
  entries : Entries := []
  header : List String := []
  closed : List (List String) := []
  frozen : List (List String) := []
  pending : List (List String) := []

namespace Draft

def isFrozen (d : Draft) (path : List String) : Bool := d.frozen.any (·.isPrefixOf path)

def isClosed (d : Draft) (path : List String) : Bool := d.closed.contains path

/-- A table header came: what was pending closes. -/
def settle (d : Draft) : Draft := { d with closed := d.pending ++ d.closed, pending := [] }

/-- Opens the table at a path for the entries to come. -/
def openTable? (d : Draft) (path : List String) : Option Draft := do
  let d := d.settle
  if d.isClosed path || d.isFrozen path then none
  else
    let entries ← alter? true some path d.entries
    some { d with entries, header := path, closed := path :: d.closed }

/-- Opens a new table of the array at a path; paths below it are free again. -/
def openArray? (d : Draft) (path : List String) : Option Draft := do
  let d := d.settle
  if d.isFrozen path then none
  else
    let free (ps : List (List String)) := ps.filter fun p => !path.isPrefixOf p
    let entries ← alter? true (addTable? (path.getLast?.getD "")) path.dropLast d.entries
    some
      { d with entries, header := path, closed := path :: free d.closed, frozen := free d.frozen }

/-- The tables that a dotted key passes through. -/
def passed (key : List String) : List (List String) :=
  (List.range (key.length - 1)).map fun i => key.take (i + 1)

/-- Adds an entry to the open table. -/
def enter? (d : Draft) (key : List String) (v : Value) : Option Draft := do
  let through := (passed key).map (d.header ++ ·)
  let parent := d.header ++ key.dropLast
  if through.any d.isClosed || d.isFrozen parent then none
  else
    let entries ← alter? true (addNew? (key.getLast?.getD "") v) parent d.entries
    let frozen := if isContainer v then (d.header ++ key) :: d.frozen else d.frozen
    some { d with entries, frozen, pending := through ++ d.pending }

end Draft
end SqlMargin.Toml
