import SqlMargin.Toml.Scalar
import SqlMargin.Toml.Tables
import SqlMargin.Toml.Text

/-! Reading TOML documents. The fuel of each function is more than three times the number of
characters of its text, spaces and tabs apart: no three calls are made without reading another one.
Values in values take up room: an array two parts of it, an inline table three. -/
namespace SqlMargin.Toml

/-- The string that a quote opens. Three quotes open one of several lines. -/
def quoted (mark : Char) (s : List Char) : Except Fault (List Char × List Char) :=
  match expectTwo? mark s with
  | some rest =>
    let body := skipFirstLineEnd rest
    (if mark = '"' then basicString true 0 [] body else literalLines [] body).map
      fun (body, rest) => extraQuotes mark body rest
  | none => onLine (if mark = '"' then basicString false 0 [] else literalString) s

/-- A string value. -/
def stringValue? : List Char → Option (Except Fault (Value × List Char))
  | [] => none
  | c :: rest =>
    if c = '"' || c = '\x27' then
      some ((quoted c rest).map fun (body, rest) => (.text (String.ofList body), rest))
    else none

mutual

def value : Nat → Nat → List Char → Except Fault (Value × List Char)
  | 0, _, _ => malformed
  | fuel + 1, room, s =>
    match stringValue? s with
    | some p => p
    | none =>
      match expect? '[' s with
      | some rest => array fuel room rest
      | none =>
        match expect? '\x7b' s with
        | some rest => inlineTable fuel room rest
        | none => onLine scalar s

/-- The array that a bracket opens. -/
def array : Nat → Nat → List Char → Except Fault (Value × List Char)
  | 0, _, _ => malformed
  | fuel + 1, room, s =>
    if room < 2 then .error .tooDeep
    else do
      let s ← skipGaps false s
      match expect? ']' s with
      | some after => pure (.list [], after)
      | none =>
        let (items, after) ← arrayItems fuel (room - 2) s
        pure (.list items, after)

/-- The items of an array, at least one, up to its end. A comma may follow the last one. -/
def arrayItems : Nat → Nat → List Char → Except Fault (List Value × List Char)
  | 0, _, _ => malformed
  | fuel + 1, room, s => do
    let (v, rest) ← value fuel room s
    let rest ← skipGaps false rest
    match expect? ']' rest with
    | some after => pure ([v], after)
    | none =>
      let rest ← skipGaps false (← orMalformed (expect? ',' rest))
      match expect? ']' rest with
      | some after => pure ([v], after)
      | none =>
        let (vs, after) ← arrayItems fuel room rest
        pure (v :: vs, after)

/-- The inline table that a brace opens. -/
def inlineTable : Nat → Nat → List Char → Except Fault (Value × List Char)
  | 0, _, _ => malformed
  | fuel + 1, room, s =>
    if room < 3 then .error .tooDeep
    else match expect? '\x7d' (skipSpaces s) with
      | some after => .ok (.table [], after)
      | none => do
        let (entries, after) ← inlineEntries fuel (room - 3) [] [] (skipSpaces s)
        pure (.table entries, after)

/-- The entries of an inline table, at least one, up to its end. -/
def inlineEntries : Nat → Nat → Entries → List (List String) → List Char →
    Except Fault (Entries × List Char)
  | 0, _, _, _, _ => malformed
  | fuel + 1, room, done, frozen, s => do
    let ((path, v), rest) ← keyValue fuel room s
    if frozen.any (·.isPrefixOf path) then malformed
    else
      let done ← orMalformed (alter? false (addNew? (path.getLast?.getD "") v) path.dropLast done)
      match expect? '\x7d' (skipSpaces rest) with
      | some after => pure (done, after)
      | none =>
        let rest ← orMalformed (expect? ',' (skipSpaces rest))
        let frozen := if isContainer v then path :: frozen else frozen
        inlineEntries fuel room done frozen (skipSpaces rest)

/-- A key, an equals sign and a value. -/
def keyValue : Nat → Nat → List Char → Except Fault ((List String × Value) × List Char)
  | 0, _, _ => malformed
  | fuel + 1, room, s => do
    let (path, rest) ← key s
    let rest ← orMalformed (expect? '=' rest)
    let (v, rest) ← value fuel room (skipSpaces rest)
    pure ((path, v), rest)

end

/-- A table header, after its first bracket. -/
def header (d : Draft) (s : List Char) : Except Fault (Draft × List Char) :=
  match expect? '[' s with
  | some rest => do
    let (path, rest) ← key (skipSpaces rest)
    let d ← orMalformed (d.openArray? path)
    pure (d, ← orMalformed (expectTwo? ']' rest))
  | none => do
    let (path, rest) ← key (skipSpaces s)
    let d ← orMalformed (d.openTable? path)
    pure (d, ← orMalformed (expect? ']' rest))

/-- One table header or entry. -/
def statement (room fuel : Nat) (d : Draft) (s : List Char) : Except Fault (Draft × List Char) :=
  match expect? '[' s with
  | some rest => header d rest
  | none =>
    if (expect? '#' s).isSome then .ok (d, s)
    else do
      let ((path, v), rest) ← keyValue fuel room s
      pure (← orMalformed (d.enter? path v), rest)

/-- The statements of a document, one a line. -/
def statements (room : Nat) : Nat → Draft → List Char → Except Fault Draft
  | 0, _, _ => malformed
  | fuel + 1, d, s =>
    match skipSpaces s with
    | [] => .ok d
    | c :: rest =>
      if c = '\n' then statements room fuel d rest
      else do
        let (d, rest) ← statement room fuel d (c :: rest)
        match ← skipComment (skipSpaces rest) with
        | [] => pure d
        | c :: rest => if c = '\n' then statements room fuel d rest else malformed

/-- Line ends written as carriage return and line feed count as line feeds. -/
def unifyLineEnds : List Char → List Char
  | '\r' :: '\n' :: rest => '\n' :: unifyLineEnds rest
  | c :: rest => c :: unifyLineEnds rest
  | [] => []

/-- The entries of a document. There is so much room for values in values. -/
def parse (room : Nat) (text : List Char) : Except Fault Entries := do
  let s := unifyLineEnds text
  let d ← statements room (3 * s.countP (!isSpace ·) + 4) {} s
  pure d.entries

end SqlMargin.Toml
