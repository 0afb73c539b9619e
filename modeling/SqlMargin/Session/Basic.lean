import SqlMargin.Indent.Pass

/-! Editing sessions and the indentation mode. A session runs whatever indent handler is bound to
it; switching the mode on binds the indenter and keeps the handler bound before, which switching it
off binds again. -/
namespace SqlMargin

/-- What an action answers. -/
inductive Reply where
  | done
  | flag (b : Bool)
  | record (r : Record)
  | records (rs : List Record)
  | answer (s : String)

/-- What a session's indent action does, in the session it was made for: go to the next tab stop,
indent the line of the cursor, or some other work on the document. -/
inductive Handler where
  | tabStop (session : Nat)
  | indentLine (session : Nat)
  | custom (session : Nat) (work : Settings → Edit Reply)

/-- A document under edit with its settings. The mode is active while it keeps a handler. -/
structure Session where
  buffer : Buffer
  settings : Settings := {}
  handler : Handler
  kept : Option Handler := none

/-- Is the session's indentation mode switched on? -/
def Session.active (s : Session) : Bool := s.kept.isSome

/-- Sessions side by side, addressed by their places, and the messages about their modes. -/
structure Workspace where
  sessions : List Session
  log : List Diagnostic := []

namespace Edit

/-- The tab width of settings when spaces are to be counted out with it. -/
def stopWidth (v : Value) : Except Fault Int :=
  match v with
  | .float x => .error (if x.isZero then .fractionalZero "modulo" else .notCount v.kind)
  | other =>
    match other.whole? with
    | none => .error (.unsupported "%" "int" other.kind)
    | some width => if width = 0 then .error .moduloByZero else .ok width

/-- Inserts spaces at the cursor up to the next tab stop, counting every character before it as one
column, if there is room for the text down to the end of the line. -/
def insertTabStop [Memory] (tabWidth : Value) : Edit Unit := do
  let d ← document
  let i ← cursorLine
  let start ← lineStart i
  let column : Int := d.cursor - start
  let width ← (stopWidth tabWidth : Except Fault Int)
  let spaces ← (Margin.count (width - column.fmod width) : Except Fault Nat)
  Memory.check (start + (d.line i).length + spaces)
  insert d.cursor (List.replicate spaces ' ')

end Edit

/-- A piece of work on sessions, which may fail. -/
abbrev Act := ExceptT Fault (StateM Workspace)

namespace Workspace

/-- The outcome of some work, and the workspace after it. -/
def perform {α : Type} (w : Workspace) (work : Act α) : Except Fault α × Workspace := work.run.run w

def update (w : Workspace) (k : Nat) (f : Session → Session) : Workspace :=
  { w with sessions := w.sessions.modify k f }

end Workspace

namespace Act

def say (m : Diagnostic) : Act Unit := modify fun w => { w with log := w.log ++ [m] }

/-- Edits the document of session `k`. The messages of the edit go to the workspace. -/
def edit {α : Type} (k : Nat) (default : α) (work : Settings → Edit α) : Act α :=
  ExceptT.mk fun w =>
    match w.sessions[k]? with
    | none => (.ok default, w)
    | some s =>
      let (outcome, b) := Edit.perform s.buffer (work s.settings)
      let w := w.update k fun s => { s with buffer := { b with log := [] } }
      (outcome, { w with log := w.log ++ b.log })

/-- Indents the cursor line of session `k`. -/
def indentLine [Memory] (k : Nat) : Act Reply :=
  edit k .done fun s => Reply.record <$> SqlMargin.indentLine s none none none

def indentBuffer [Memory] (k : Nat) : Act Reply :=
  edit k .done fun s => Reply.records <$> SqlMargin.indentBuffer s none

/-- Runs the handler bound to session `k`. -/
def indent [Memory] (k : Nat) : Act Reply := do
  let w ← get
  match w.sessions[k]?.map Session.handler with
  | none => pure .done
  | some (.custom j work) => edit j .done work
  | some (.indentLine j) => indentLine j
  | some (.tabStop j) => edit j .done fun s => do
    Edit.insertTabStop s.tabWidth
    pure .done

def insert (k : Nat) (p : Int) (s : List Char) : Act Reply :=
  edit k .done fun _ => do Edit.insert p s; pure .done

def moveCursor (k : Nat) (p : Int) : Act Reply :=
  edit k .done fun _ => do Edit.moveCursor p; pure .done

def configure (k : Nat) (settings : Settings) : Act Reply := do
  modify fun w => w.update k fun s => { s with settings }
  pure .done

/-- Switches the mode of session `mode` on, for session `k`. -/
def activate (mode k : Nat) : Act Unit := do
  let w ← get
  match w.sessions[mode]?, w.sessions[k]? with
  | some m, some s =>
    if m.active then pure ()
    else
      set ((w.update mode fun m => { m with kept := some s.handler }).update k
        fun s => { s with handler := .indentLine k })
      say .modeEnabled
  | _, _ => pure ()

/-- Switches the mode of session `mode` off; session `k` gets the handler it kept. -/
def deactivate (mode k : Nat) : Act Unit := do
  let w ← get
  match w.sessions[mode]?.bind (·.kept) with
  | none => pure ()
  | some h =>
    set ((w.update mode fun m => { m with kept := none }).update k
      fun s => { s with handler := h })
    say .modeDisabled

def isActive (mode : Nat) : Act Bool := return (← get).sessions[mode]?.any (·.active)

/-- Switches a mode over and answers whether it is now on. -/
def toggle (mode k : Nat) : Act Reply := do
  if ← isActive mode then deactivate mode k else activate mode k
  return .flag (← isActive mode)

end Act
end SqlMargin
