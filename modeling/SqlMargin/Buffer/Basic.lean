import SqlMargin.Diagnostic
import SqlMargin.Document.Change
import SqlMargin.Lexical.Classifier

/-! Buffers: a document with those who follow its edits. Every edit tells each listener, in the
order of registration, the first line it touched. -/
namespace SqlMargin
open Lexical (Classifier)

/-- Who follows the edits of a document: a named observer, or a classifier of the buffer. -/
inductive Listener where
  | observer (name : String)
  | classifier (index : Nat)
  deriving DecidableEq, Repr

/-- A document under edit. Observers' notifications and log messages are kept in order. -/
structure Buffer where
  document : Document
  listeners : List Listener := []
  classifiers : List Classifier := []
  /-- How many questions have been put to oracles. -/
  asked : Nat := 0
  events : List (String × Nat) := []
  log : List Diagnostic := []

namespace Buffer

def ofText (s : List Char) (cursor : Int) : Buffer := { document := .ofText s cursor }

/-- Tells one listener that an edit touched line `i` first. -/
def tell (b : Buffer) (i : Nat) : Listener → Buffer
  | .observer name => { b with events := b.events ++ [(name, i)] }
  | .classifier k => { b with classifiers := b.classifiers.modify k (·.flush i) }

/-- Puts an edited document in place and tells every listener. -/
def changed (b : Buffer) (d : Document) (i : Nat) : Buffer :=
  b.listeners.foldl (fun b l => b.tell i l) { b with document := d }

def insert (b : Buffer) (p : Int) (s : List Char) : Buffer :=
  b.changed (b.document.insert p s) (b.document.lineAt p)

def moveCursor (b : Buffer) (p : Int) : Buffer := { b with document := b.document.moveCursor p }

def replaceMargin (b : Buffer) (i : Nat) (m : Margin) : Buffer :=
  b.changed (b.document.replaceMargin i m) i

/-- Adds a classifier that follows the edits; it is addressed by its place in the buffer. -/
def openClassifier (b : Buffer) (escapes : Bool) : Buffer :=
  { b with
    listeners := b.listeners ++ [.classifier b.classifiers.length]
    classifiers := b.classifiers ++ [.new escapes] }

/-- Takes away the classifiers from place `k` on, the first of which followed the edits. -/
def dropClassifier (b : Buffer) (k : Nat) : Buffer :=
  { b with listeners := b.listeners.erase (.classifier k), classifiers := b.classifiers.take k }

end Buffer

/-- A piece of work on a buffer, which may fail. What was done before a failure stays done. -/
abbrev Edit := ExceptT Fault (StateM Buffer)

namespace Edit

/-- The outcome of some work on a buffer, and the buffer after it. -/
def perform {α : Type} (b : Buffer) (work : Edit α) : Except Fault α × Buffer := work.run.run b

def document : Edit Document := return (← get).document

/-- Lets the document take note of line starts, and gives it. -/
def consult (look : Document → Document) : Edit Document :=
  modifyGet fun b => (look b.document, { b with document := look b.document })

/-- Offset of the first character of line `i`. -/
def lineStart (i : Nat) : Edit Nat := return (← consult (·.reach i)).lineStart i

/-- The line in which a position lies. -/
def lineAt (p : Int) : Edit Nat := return (← consult (·.reachPast p)).lineAt p

/-- Offset just past the margin of line `i`. -/
def marginEnd (i : Nat) : Edit Nat := return (← lineStart i) + ((← document).margin i).length

/-- Offset of the end of line `i`. -/
def lineEnd (i : Nat) : Edit Nat := return (← lineStart i) + ((← document).line i).length

def cursorLine : Edit Nat := do lineAt (← document).cursor

/-- Inserts text at a position. -/
def insert (p : Int) (s : List Char) : Edit Unit := modify (·.insert p s)

def moveCursor (p : Int) : Edit Unit := modify (·.moveCursor p)

/-- A line number given from outside. -/
def checkLine (n : Int) : Edit Nat := do (← document).checkLine n

/-- Asks something about a line whose number is given from outside. -/
def onLine {α : Type} (n : Int) (ask : Nat → Edit α) : Edit α := do ask (← checkLine n)

/-- Gives a line the margin that a text holds. -/
def replaceMargin (n : Int) (s : List Char) : Edit Unit := do
  match Margin.ofText? s with
  | none => throw (.notMargin s)
  | some m => onLine n fun i => modify (·.replaceMargin i m)

def addListener (l : Listener) : Edit Unit :=
  modify fun b => { b with listeners := b.listeners ++ [l] }

/-- Removes the first registration of a listener. -/
def removeListener (l : Listener) : Edit Unit := do
  let b ← get
  if l ∈ b.listeners then set { b with listeners := b.listeners.erase l }
  else throw .notListening

/-- A new classifier that follows the edits. -/
def openClassifier (escapes : Bool) : Edit Nat := do
  let b ← get
  set (b.openClassifier escapes)
  pure b.classifiers.length

/-- The classifier stops following the edits; it still answers from what it kept. -/
def closeClassifier (k : Nat) : Edit Unit := removeListener (.classifier k)

def flushClassifier (k : Nat) (n : Int) : Edit Unit :=
  modify fun b => { b with classifiers := b.classifiers.modify k (·.flush n) }

/-- The lexical state just before a position, from classifier `k`. -/
def stateAt (k : Nat) (p : Int) : Edit Lexical.State := do
  let b ← get
  match b.classifiers[k]? with
  | none => throw (.noClassifier k)
  | some c =>
    let i ← lineAt p
    let start ← lineStart i
    let d ← document
    let (s, c) ← (c.stateIn d i (d.clamp p - start) : Except Fault _)
    modify fun b => { b with classifiers := b.classifiers.set k c }
    pure s

def log (m : Diagnostic) : Edit Unit := modify fun b => { b with log := b.log ++ [m] }

end Edit
end SqlMargin
