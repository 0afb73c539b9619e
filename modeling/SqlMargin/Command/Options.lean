import SqlMargin.Command.Help
import SqlMargin.Command.Toolkit
import SqlMargin.Settings.Keywords
import SqlMargin.Text.ControlSequence
import SqlMargin.Text.Likeness
import SqlMargin.Text.Numeral
import SqlMargin.Text.Quoted

/-! A library for command lines. Options stand in any order among the arguments, long ones with
their value behind an equals sign or in the next word, short ones run together. What is written to
no terminal loses its control sequences. -/
namespace SqlMargin.Command

/-- An option as it was given. -/
inductive Word where
  | version
  | help
  | indentOffset (value : String)
  | tabWidth (value : String)
  | line (value : String)
  | useTabs (on : Bool)
  | debug (on : Bool)
  | inPlace
  | check
  deriving DecidableEq, Repr

/-- Why a command line is not understood. -/
inductive UsageFault where
  /-- An option that is not known, and options with names much like it. -/
  | noSuchOption (name : String) (similar : List String)
  | needsValue (name : String)
  | takesNoValue (name : String)
  | notInteger (name value : String)
  | notRange (name value : String)
  | outOfRange (name : String) (n : Int)
  | missingFile
  | noFile (path : String)
  | isDirectory (path : String)
  | unreadable (path : String)
  | extraWords (words : List String)
  | badTarget (reason : String)
  deriving DecidableEq, Repr

namespace UsageFault

/-- What is asked about options that may have been meant. -/
def suggestion : List String → String
  | [] => ""
  | [name] => s!" Did you mean {Text.quote name}?"
  | names =>
    let all := ", ".intercalate (names.map Text.quote)
    s!" (Did you mean one of: {all}?)"

def message : UsageFault → String
  | .noSuchOption name similar => s!"No such option {Text.quote name}." ++ suggestion similar
  | .needsValue name => s!"Option {Text.quote name} requires an argument."
  | .takesNoValue name => s!"Option {Text.quote name} does not take a value."
  | .notInteger name value =>
    s!"Invalid value for '{name}': {Text.quote value} is not a valid integer."
  | .notRange name value =>
    s!"Invalid value for '{name}': {Text.quote value} is not a valid integer range."
  | .outOfRange name n => s!"Invalid value for '{name}': {n} is not in the range x>=1."
  | .missingFile => "Missing argument 'FILEPATH'."
  | .noFile path => s!"Invalid value for 'FILEPATH': File {Text.quote path} does not exist."
  | .isDirectory path => s!"Invalid value for 'FILEPATH': File {Text.quote path} is a directory."
  | .unreadable path => s!"Invalid value for 'FILEPATH': File {Text.quote path} is not readable."
  | .extraWords [w] => s!"Got unexpected extra argument ({w})"
  | .extraWords ws =>
    let all := " ".intercalate ws
    s!"Got unexpected extra arguments ({all})"
  | .badTarget reason => s!"Invalid value for FILEPATH: {reason}"

/-- Whether the usage is shown before the message. -/
def showsUsage : UsageFault → Bool
  | .needsValue _ => false
  | .takesNoValue _ => false
  | _ => true

def notice (f : UsageFault) : Notice :=
  { exitCode := 2, text := (if f.showsUsage then usageText else "") ++ s!"Error: {f.message}\n" }

end UsageFault

/-- What a long option stands for: a word by itself, or one that takes a value. -/
inductive Kind where
  | alone (w : Word)
  | valued (make : String → Word)

/-- The long options. -/
def longOptions : List (String × Kind) :=
  [("--version", .alone .version),
   ("--help", .alone .help),
   ("--indent-offset", .valued .indentOffset),
   ("--tab-width", .valued .tabWidth),
   ("--use-tabs", .alone (.useTabs true)),
   ("--no-use-tabs", .alone (.useTabs false)),
   ("--debug", .alone (.debug true)),
   ("--no-debug", .alone (.debug false)),
   ("--line", .valued .line),
   ("--in-place", .alone .inPlace),
   ("--check", .alone .check)]

def longOption? (name : String) : Option Kind := longOptions.lookup name

/-- The fault of a long option that is not known: up to three that are much like it are shown, in
alphabetical order. -/
def unknownLong (name : String) : UsageFault :=
  .noSuchOption name (wordSet (Text.closest 3 name (longOptions.map (·.1))))

/-- Short options run together. -/
def shortOptions : List Char → Except UsageFault (List Word)
  | [] => .ok []
  | c :: rest =>
    if c = 'i' then (.inPlace :: ·) <$> shortOptions rest
    else .error (.noSuchOption (String.ofList ['-', c]) [])

/-- A word's name, and the value behind its first equals sign. -/
def splitValue (w : String) : String × Option String :=
  let name := w.toList.takeWhile (· != '=')
  match w.toList.drop name.length with
  | [] => (w, none)
  | _ :: value => (String.ofList name, some (String.ofList value))

/-- A command line taken apart: its options in order, and the other words. -/
structure Words where
  options : List Word := []
  others : List String := []

def Words.addOptions (ws : List Word) (r : Words) : Words := { r with options := ws ++ r.options }

/-- Takes a command line apart. All that follows two dashes is no option. -/
def parse : List String → Except UsageFault Words
  | [] => .ok {}
  | w :: rest =>
    if w = "--" then .ok { others := rest }
    else if w.toList.head? != some '-' || w.length ≤ 1 then do
      let r ← parse rest
      pure { r with others := w :: r.others }
    else
      let (name, value) := splitValue w
      match longOption? name with
      | some (.alone word) =>
        if value.isSome then .error (.takesNoValue name)
        else (Words.addOptions [word]) <$> parse rest
      | some (.valued make) =>
        match value, rest with
        | some v, rest => (Words.addOptions [make v]) <$> parse rest
        | none, v :: rest => (Words.addOptions [make v]) <$> parse rest
        | none, [] => .error (.needsValue name)
      | none =>
        if ['-', '-'].isPrefixOf w.toList then .error (unknownLong name)
        else do
          let ws ← shortOptions (w.toList.drop 1)
          (Words.addOptions ws) <$> parse rest

/-- The options that hold numbers. -/
inductive Number where
  | indentOffset
  | tabWidth
  | line
  deriving DecidableEq, Repr

def Word.number? : Word → Option (Number × String)
  | .indentOffset v => some (.indentOffset, v)
  | .tabWidth v => some (.tabWidth, v)
  | .line v => some (.line, v)
  | _ => none

/-- Reads the number of an option; lines are counted from one. -/
def Number.read (n : Number) (v : String) : Except UsageFault Int :=
  match n, Text.integer? v.toList with
  | .indentOffset, none => .error (.notInteger "--indent-offset" v)
  | .tabWidth, none => .error (.notInteger "--tab-width" v)
  | .line, none => .error (.notRange "--line" v)
  | .line, some i => if i < 1 then .error (.outOfRange "--line" i) else .ok i
  | _, some i => .ok i

/-- The numbers given, in the order in which their options first appear; the last value counts. -/
def numbers (ws : List Word) : Except UsageFault (List (Number × Int)) :=
  let given := ws.filterMap Word.number?
  (given.map (·.1)).eraseDups.mapM fun n => do
    pure (n, ← n.read ((given.reverse.lookup n).getD ""))

/-- The last of some switches. -/
def lastSwitch (select : Word → Option Bool) (ws : List Word) : Option Bool :=
  (ws.filterMap select).getLast?

/-- What options ask for, with a file yet to be named. -/
def request (ws : List Word) : Except UsageFault Arguments := do
  let ns ← numbers ws
  pure {
    file := ""
    indentOffset := ns.lookup .indentOffset
    tabWidth := ns.lookup .tabWidth
    useTabs := lastSwitch (fun | .useTabs b => some b | _ => none) ws
    debug := lastSwitch (fun | .debug b => some b | _ => none) ws
    line := ns.lookup .line
    inPlace := ws.contains .inPlace
    check := ws.contains .check }

/-- The first of the words that ask for help or the version is answered. -/
def firstEager (ws : List Word) : Option String :=
  ws.findSome? fun
    | .version => some versionText
    | .help => some helpText
    | _ => none

/-- The one file named, which must be there, not be a directory, and be open to reading. -/
def fileArgument (probe : String → Probe) (others : List String) : Except Ending String :=
  let refuse (f : UsageFault) : Except Ending String := .error (.refused f.notice)
  match others with
  | [] => refuse .missingFile
  | path :: extra =>
    match probe path with
    | .invalid => .error (.crashed .nullByte)
    | .absent => refuse (.noFile path)
    | .directory => refuse (.isDirectory path)
    | .file false => refuse (.unreadable path)
    | .file true => if extra.isEmpty then .ok path else refuse (.extraWords extra)

/-- All words are taken apart before anything is answered, and options are read before files are
looked at. -/
def arguments (probe : String → Probe) (words : List String) : Except Ending Arguments := do
  let ws ← (parse words).mapError (.refused ·.notice)
  if let some text := firstEager ws.options then throw (.told text)
  let r ← (request ws.options).mapError (.refused ·.notice)
  let file ← fileArgument probe ws.others
  pure { r with file }

/-- The library with the rules of this module. -/
def Toolkit.standard : Toolkit where
  arguments := Command.arguments
  wrongFile reason := (UsageFault.badTarget reason).notice
  failure message := { exitCode := 1, text := s!"Error: {message}\n" }
  shown onTerminal text := if onTerminal then text else Text.plain text

end SqlMargin.Command
