import SqlMargin.Toml.Fault

/-! Strings and keys of a TOML document. -/
namespace SqlMargin.Toml

def isHexDigit (c : Char) : Bool :=
  c.isDigit || ('a' ≤ c && c ≤ 'f') || ('A' ≤ c && c ≤ 'F')

def hexDigitValue (c : Char) : Nat :=
  if c.isDigit then c.toNat - 48
  else if 'a' ≤ c then c.toNat - 87
  else c.toNat - 55

/-- A character given by `n` hexadecimal digits. -/
def hexDigits (n : Nat) (s : List Char) : Except Fault (List Char × List Char) :=
  let digits := s.take n
  if digits.length = n && digits.all isHexDigit then
    let code := Text.ofDigits 16 (digits.map hexDigitValue)
    if code.isValidChar then .ok ([Char.ofNat code], s.drop n) else malformed
  else malformed

/-- What follows a backslash at the end of a line: all spaces and line ends are left out. -/
def skipLineEnd (s : List Char) : Except Fault (List Char) :=
  match skipSpaces s with
  | [] => .ok []
  | c :: rest =>
    if c = '\n' then .ok (rest.dropWhile fun c => isSpace c || c == '\n') else malformed

/-- What letters after a backslash stand for. -/
def letterEscapes : List (Char × Char) :=
  [('b', '\x08'), ('t', '\t'), ('n', '\n'), ('f', '\x0c'), ('r', '\r'), ('"', '"'), ('\\', '\\')]

/-- What a backslash and the text after it stand for. -/
def escape (multiline : Bool) : List Char → Except Fault (List Char × List Char)
  | [] => malformed
  | c :: rest =>
    match letterEscapes.lookup c with
    | some d => .ok ([d], rest)
    | none =>
      if c = 'u' then onLine (hexDigits 4) rest
      else if c = 'U' then onLine (hexDigits 8) rest
      else if multiline && (isSpace c || c = '\n') then
        (skipLineEnd (c :: rest)).map fun r => ([], r)
      else malformed

/-- What follows two quotes, if the text starts with them. -/
def expectTwo? (mark : Char) (s : List Char) : Option (List Char) :=
  (expect? mark s).bind (expect? mark)

/-- The rest of a string in double quotes, with escapes. `done` holds the characters so far, the
last one first; the next `read` characters belong to an escape that is among them. -/
def basicString (multiline : Bool) : Nat → List Char → List Char →
    Except Fault (List Char × List Char)
  | _, _, [] => malformed
  | read + 1, done, _ :: rest => basicString multiline read done rest
  | 0, done, c :: rest =>
    if c = '"' then
      if !multiline then .ok (done.reverse, rest)
      else match expectTwo? '"' rest with
        | some after => .ok (done.reverse, after)
        | none => basicString multiline 0 (c :: done) rest
    else if c = '\\' then do
      let (cs, after) ← escape multiline rest
      basicString multiline (rest.length - after.length) (cs.reverse ++ done) rest
    else if isControl c && !(multiline && c = '\n') then malformed
    else basicString multiline 0 (c :: done) rest

/-- The rest of a string in single quotes, in which every character stands for itself. -/
def literalString (s : List Char) : Except Fault (List Char × List Char) :=
  let body := s.takeWhile (· != '\x27')
  match s.drop body.length with
  | [] => malformed
  | _ :: rest => if body.any isControl then malformed else .ok (body, rest)

/-- The rest of a string in three single quotes; `done` holds the characters so far, the last one
first. -/
def literalLines (done : List Char) : List Char → Except Fault (List Char × List Char)
  | [] => malformed
  | c :: rest =>
    if c = '\x27' then
      match expectTwo? '\x27' rest with
      | some after => .ok (done.reverse, after)
      | none => literalLines (c :: done) rest
    else if isControl c && c != '\n' then malformed
    else literalLines (c :: done) rest

/-- A string in three quotes may end with one or two quotes of its own. -/
def extraQuotes (mark : Char) (body rest : List Char) : List Char × List Char :=
  match expectTwo? mark rest with
  | some after => (body ++ [mark, mark], after)
  | none =>
    match expect? mark rest with
    | some after => (body ++ [mark], after)
    | none => (body, rest)

/-- A line end right after three opening quotes does not belong to the string. -/
def skipFirstLineEnd (s : List Char) : List Char := (expect? '\n' s).getD s

def isBareKeyChar (c : Char) : Bool := c.isAlphanum || c == '-' || c == '_'

/-- One part of a key: bare, or a string. It stands on one line. -/
def keyPart (s : List Char) : Except Fault (String × List Char) :=
  match s with
  | '\x27' :: rest => (literalString rest).map fun (k, r) => (String.ofList k, r)
  | '"' :: rest =>
    (basicString false 0 [] rest).map fun (k, r) => (String.ofList k, r)
  | _ =>
    let k := s.takeWhile isBareKeyChar
    if k.isEmpty then malformed else .ok (String.ofList k, s.drop k.length)

/-- Parts of a key, at most `n`, with dots between them. -/
def keyParts : Nat → List Char → Except Fault (List String × List Char)
  | 0, _ => malformed
  | n + 1, s => do
    let (part, rest) ← keyPart s
    match skipSpaces rest with
    | '.' :: after =>
      let (parts, rest) ← keyParts n (skipSpaces after)
      pure (part :: parts, rest)
    | rest => pure ([part], rest)

/-- A key. Every part of it takes up room on its line. -/
def key (s : List Char) : Except Fault (List String × List Char) :=
  onLine (fun line => keyParts (line.length + 1) line) s

end SqlMargin.Toml
