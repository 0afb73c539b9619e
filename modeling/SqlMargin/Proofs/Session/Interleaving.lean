import SqlMargin.Proofs.Indent.Totality
import SqlMargin.Session.Basic

/-! Sessions side by side, each with a mode of its own, and calls to them in any order, those that
fail included. A session's indent action is the indenter while its mode is on, and what the session
started with while it is off; no call reaches another session; and the cursor stays in the text,
which an indent action of one's own has a part in. -/
namespace SqlMargin
open Edit (Keeps perform)

/-! Cursors. -/

/-- The cursor stands in the text. -/
def Buffer.InText (b : Buffer) : Prop := b.document.cursor ≤ b.document.length

lemma Buffer.inText_ofText (s : List Char) (cursor : Int) : (Buffer.ofText s cursor).InText :=
  Document.clamp_le_length _ cursor

namespace Edit

variable {α : Type}

lemma Keeps.inText_of_eq {work : Edit α}
    (h : ∀ b, (perform b work).2.document.lines = b.document.lines ∧
      (perform b work).2.document.cursor = b.document.cursor) : Keeps Buffer.InText work := by
  intro b hb
  obtain ⟨hlines, hcursor⟩ := h b
  have hlength := b.document.length_succ
  have hlength' := (perform b work).2.document.length_succ
  rw [hlines] at hlength'
  unfold Buffer.InText at hb ⊢
  rw [hcursor]
  omega

/-- Questions do not move the cursor. -/
lemma Keeps.inText {work : Edit α} (h : ∀ b₀ : Buffer, Keeps b₀.Reads work) :
    Keeps Buffer.InText work := by
  refine .inText_of_eq fun b => ?_
  have hr := h b b (.refl b)
  exact ⟨hr.lines, hr.cursor⟩

lemma keeps_inText_moveCursor (p : Int) : Keeps Buffer.InText (moveCursor p) :=
  .modify fun b _ => b.document.clamp_le_length p

/-- A cursor that moves with the text moves no further than the text grows. -/
lemma keeps_inText_insert (p : Int) (s : List Char) : Keeps Buffer.InText (insert p s) := by
  refine .modify fun b hb => ?_
  change b.document.cursor ≤ b.document.length at hb
  change (b.insert p s).document.cursor ≤ (b.insert p s).document.length
  rw [Buffer.insert, Buffer.document_changed]
  change (if b.document.clamp p ≤ b.document.cursor then b.document.cursor + s.length
    else b.document.cursor) ≤ b.document.length + s.length
  split
  · omega
  · omega

/-- A margin that is refused leaves everything as it was. -/
lemma eq_of_perform_replaceMargin_error {b b' : Buffer} {n : Int} {s : List Char} {f : Fault}
    (h : perform b (replaceMargin n s) = (.error f, b')) : b' = b := by
  unfold replaceMargin at h
  cases hm : Margin.ofText? s with
  | none =>
    rw [hm] at h
    exact (Prod.mk.inj h).2.symm
  | some m =>
    rw [hm] at h
    change perform b (checkLine n >>= fun i => modify (·.replaceMargin i m)) = _ at h
    have hcheck : perform b (checkLine n) = (b.document.checkLine n, b) := rfl
    cases hc : b.document.checkLine n with
    | error e =>
      rw [hc] at hcheck
      rw [perform_bind_error hcheck] at h
      exact (Prod.mk.inj h).2.symm
    | ok i =>
      rw [hc] at hcheck
      rw [perform_bind_ok hcheck] at h
      cases h

/-- Whoever replaces a margin and then puts the cursor somewhere keeps it in the text. -/
lemma keeps_inText_replaceMargin (n : Int) (s : List Char) (place : Document → Int) :
    Keeps Buffer.InText (do replaceMargin n s; moveCursor (place (← document))) := by
  intro b hb
  rcases hp : perform b (replaceMargin n s) with ⟨f | _, b'⟩
  · rwa [perform_bind_error hp, eq_of_perform_replaceMargin_error hp]
  · rw [perform_bind_ok hp, perform_bind_ok (perform_document b')]
    exact b'.document.clamp_le_length _

lemma keeps_inText_insertTabStop [Memory] (width : Value) : Keeps Buffer.InText
    (insertTabStop width) := by
  refine Keeps.document.bind fun d => (Keeps.inText fun _ => keeps_cursorLine).bind fun i => ?_
  refine (Keeps.inText fun _ => keeps_lineStart i).bind fun start => (Keeps.lift _).bind fun _ => ?_
  refine (Keeps.lift _).bind fun _ => (Keeps.lift _).bind fun _ => ?_
  exact keeps_inText_insert _ _

end Edit

/-- A line gets a margin, or nothing is done. -/
lemma keeps_inText_indentLine [Memory] (settings : Settings) (lexer : Option Lexer)
    (previous : Option (Previous Int)) (line : Option Int) :
    Keeps Buffer.InText (indentLine settings lexer previous line) := by
  refine (Keeps.lift _).bind fun s => ?_
  intro b hb
  by_cases hthere : ∀ n, line = some n → 0 ≤ n ∧ n < b.document.lineCount
  · obtain ⟨i, hmeans⟩ := Document.exists_means hthere
    obtain ⟨b₁, hline, h₁⟩ := perform_lineOrCursor hmeans
    rw [Edit.perform_bind_ok hline]
    rcases s.perform_indentLine_cases lexer previous h₁ hmeans.1 with
      ⟨f, b', hb', hpage⟩ | ⟨r, m, b', hb', hpage⟩
    · rw [hb']
      exact (Document.Anchors.of_page_eq (i := 0) hb hpage).cursor_le
    · rw [hb']
      exact (Document.Anchors.of_page_place hb hmeans.1 hpage).1.cursor_le
  · simp only [not_forall] at hthere
    obtain ⟨n, rfl, hout⟩ := hthere
    rw [Edit.perform_bind_error (perform_lineOrCursor_outside hout)]
    exact hb

lemma keeps_inText_indentBuffer [Memory] (settings : Settings) (lexer : Option Lexer) :
    Keeps Buffer.InText (indentBuffer settings lexer) := by
  refine (Keeps.lift _).bind fun s => ?_
  intro b hb
  obtain ⟨y, hy, _⟩ := (s.indentBuffer_leaves lexer (b := b) rfl (Document.page_past hb)).past
  exact (Document.of_page_past hy).2.2

/-! What is asked of a handler. -/

/-- Work that minds the cursor of its document. The cursor is left where it is when a margin is
replaced, and callers decide where it belongs: such work decides at once. -/
inductive Edit.MindsCursor [Memory] : {α : Type} → Edit α → Prop
  /-- The text and the cursor are left alone, as by a question or a failure. -/
  | look {α : Type} {work : Edit α}
    (h : ∀ b, let d := (perform b work).2.document
      d.lines = b.document.lines ∧ d.cursor = b.document.cursor) : MindsCursor work
  | insert (p : Int) (s : List Char) : MindsCursor (Edit.insert p s)
  | moveCursor (p : Int) : MindsCursor (Edit.moveCursor p)
  | replaceMargin (n : Int) (s : List Char) (place : Document → Int) :
    MindsCursor (do Edit.replaceMargin n s; Edit.moveCursor (place (← Edit.document)))
  | indentLine (settings : Settings) (lexer : Option Lexer) (previous : Option (Previous Int))
    (line : Option Int) : MindsCursor (SqlMargin.indentLine settings lexer previous line)
  | indentBuffer (settings : Settings) (lexer : Option Lexer) :
    MindsCursor (SqlMargin.indentBuffer settings lexer)
  | bind {α β : Type} {work : Edit α} {next : α → Edit β} (hw : MindsCursor work)
    (hn : ∀ a, MindsCursor (next a)) : MindsCursor (work >>= next)
  | tryCatch {α : Type} {work : Edit α} {rescue : Fault → Edit α} (hw : MindsCursor work)
    (hr : ∀ f, MindsCursor (rescue f)) : MindsCursor (tryCatch work rescue)

/-- Such work keeps the cursor in the text, however it ends. -/
theorem Edit.MindsCursor.keeps_inText [Memory] {α : Type} {work : Edit α} (h : work.MindsCursor) :
    Keeps Buffer.InText work := by
  induction h with
  | look h => exact .inText_of_eq h
  | insert p s => exact keeps_inText_insert p s
  | moveCursor p => exact keeps_inText_moveCursor p
  | replaceMargin n s place => exact keeps_inText_replaceMargin n s place
  | indentLine settings lexer previous line =>
    exact keeps_inText_indentLine settings lexer previous line
  | indentBuffer settings lexer => exact keeps_inText_indentBuffer settings lexer
  | bind _ _ hw hn => exact hw.bind hn
  | tryCatch _ _ hw hr => exact hw.tryCatch hr

/-- To replace a margin and leave it at that may leave the cursor behind the text. -/
example : ¬ Keeps Buffer.InText (Edit.replaceMargin 0 []) := by
  intro h
  have hle := h (.ofText "    a".toList 5) (Buffer.inText_ofText ..)
  exact absurd hle (by unfold Buffer.InText; decide)

/-- A handler that minds the cursor. The work that others have brought is theirs to answer for. -/
inductive Handler.MindsCursor [Memory] : Handler → Prop
  | tabStop (k : Nat) : MindsCursor (.tabStop k)
  | indentLine (k : Nat) : MindsCursor (.indentLine k)
  | custom {k : Nat} {work : Settings → Edit Reply}
    (h : ∀ settings, (work settings).MindsCursor) : MindsCursor (.custom k work)

/-! Calls. -/

/-- A call to a session, or to the mode that belongs to it. -/
inductive Session.Call where
  | toggle
  | activate
  | deactivate
  | indent
  | indentLine
  | indentBuffer
  | insert (p : Int) (s : List Char)
  | moveCursor (p : Int)
  | configure (settings : Settings)

namespace Session.Call

/-- What a call does to session `k`. -/
def act [Memory] (k : Nat) : Session.Call → Act Reply
  | .toggle => Act.toggle k k
  | .activate => do Act.activate k k; pure .done
  | .deactivate => do Act.deactivate k k; pure .done
  | .indent => Act.indent k
  | .indentLine => Act.indentLine k
  | .indentBuffer => Act.indentBuffer k
  | .insert p s => Act.insert k p s
  | .moveCursor p => Act.moveCursor k p
  | .configure settings => Act.configure k settings

/-- Is the mode on after a call, if it was on, or off, before? -/
def switch : Session.Call → Bool → Bool
  | .toggle, on => !on
  | .activate, _ => true
  | .deactivate, _ => false
  | _, on => on

end Session.Call

namespace Workspace

/-- The workspace after one call, successful or not, to session `k`. -/
def call [Memory] (w : Workspace) (k : Nat) (c : Session.Call) : Workspace :=
    (w.perform (c.act k)).2

/-- The workspace after calls to its sessions. -/
def after [Memory] (w : Workspace) (calls : List (Nat × Session.Call)) : Workspace :=
  calls.foldl (fun w c => w.call c.1 c.2) w

end Workspace

/-- Whether calls leave the mode of session `k` on, which is off at first: only the calls to that
session count. -/
def Session.switched (k : Nat) (calls : List (Nat × Session.Call)) : Bool :=
  calls.foldl (fun on c => if c.1 = k then c.2.switch on else on) false

/-! What one call can do. -/

/-- A handler that belongs to session `k`. -/
inductive Handler.Own (k : Nat) : Handler → Prop
  | tabStop : Own k (.tabStop k)
  | indentLine : Own k (.indentLine k)
  | custom (work : Settings → Edit Reply) : Own k (.custom k work)

/-- What session `k` can become by a call. -/
inductive Session.Becomes [Memory] (k : Nat) (s : Session) : Session.Call → Session → Prop
  | edited {c : Session.Call} {b : Buffer} (hc : c.switch s.active = s.active)
      (hb : s.handler.MindsCursor → s.buffer.InText → b.InText) :
    Becomes k s c { s with buffer := b }
  | configured {settings : Settings} : Becomes k s (.configure settings) { s with settings }
  | stays {c : Session.Call} (hc : c.switch s.active = s.active) : Becomes k s c s
  | switchedOn {c : Session.Call} (hc : c.switch false = true) (hk : s.kept = none) :
    Becomes k s c { s with kept := some s.handler, handler := .indentLine k }
  | switchedOff {c : Session.Call} {h : Handler} (hc : c.switch true = false)
      (hk : s.kept = some h) : Becomes k s c { s with kept := none, handler := h }

/-- Session `k` has gone through a change, and nothing has happened to the others. -/
structure Workspace.Moves (w w' : Workspace) (k : Nat) (change : Session → Session → Prop) :
    Prop where
  here : Option.Rel change w.sessions[k]? w'.sessions[k]?
  elsewhere : ∀ j ≠ k, w'.sessions[j]? = w.sessions[j]?

namespace Workspace

variable {w : Workspace} {k : Nat} {change : Session → Session → Prop}

lemma Moves.stay (h : ∀ s, w.sessions[k]? = some s → change s s) : w.Moves w k change := by
  refine ⟨?_, fun _ _ => rfl⟩
  cases hs : w.sessions[k]? with
  | none => exact .none
  | some s => exact .some (h s hs)

lemma moves_update {f : Session → Session} {log : List Diagnostic}
    (h : ∀ s, w.sessions[k]? = some s → change s (f s)) :
    w.Moves { w.update k f with log } k change := by
  constructor
  · simp only [Workspace.update, List.getElem?_modify_eq]
    cases hs : w.sessions[k]? with
    | none => exact .none
    | some s => exact .some (h s hs)
  · intro j hj
    simp [Workspace.update, Ne.symm hj]

lemma perform_get_bind {α : Type} (w : Workspace) (next : Workspace → Act α) :
    w.perform (get >>= next) = w.perform (next w) := rfl

/-- Work on the document of session `k`. -/
lemma moves_edit {α : Type} (default : α) (work : Settings → Edit α)
    (h : ∀ s, w.sessions[k]? = some s →
      change s { s with buffer := { (Edit.perform s.buffer (work s.settings)).2 with log := [] } }) :
    w.Moves (w.perform (Act.edit k default work)).2 k change := by
  unfold Workspace.perform Act.edit
  rw [ExceptT.run_mk, StateT.run]
  cases hs : w.sessions[k]? with
  | none => exact .stay fun s h => by cases hs.symm.trans h
  | some s =>
    refine moves_update fun s' hs' => ?_
    cases hs.symm.trans hs'
    exact h s hs

/-- The same where the work leaves the cursor in the text. -/
lemma moves_edit_inText [Memory] {α : Type} {c : Session.Call} (default : α)
    {work : Settings → Edit α}
    (hc : ∀ on, c.switch on = on) (h : ∀ settings, Keeps Buffer.InText (work settings)) :
    w.Moves (w.perform (Act.edit k default work)).2 k (Session.Becomes k · c) :=
  moves_edit default work fun s _ => .edited (hc _) fun _ => h s.settings s.buffer

lemma update_update (w : Workspace) (k : Nat) (f g : Session → Session) :
    (w.update k f).update k g = w.update k fun s => g (f s) := by
  simp only [Workspace.update, List.modify_modify_eq]
  rfl

lemma moves_activate [Memory] {c : Session.Call}
    (hc : ∀ s, w.sessions[k]? = some s → c.switch s.active = true) :
    w.Moves (w.perform (Act.activate k k)).2 k (Session.Becomes k · c) := by
  rw [Act.activate, perform_get_bind]
  cases hs : w.sessions[k]? with
  | none => exact .stay fun s h => by cases hs.symm.trans h
  | some s =>
    have hswitch := hc s hs
    cases hactive : s.active with
    | true =>
      simp only [hactive, if_true]
      refine .stay fun s' hs' => ?_
      cases hs.symm.trans hs'
      exact .stays (hswitch.trans hactive.symm)
    | false =>
      simp only [hactive, update_update]
      refine moves_update fun s' hs' => ?_
      cases hs.symm.trans hs'
      rw [hactive] at hswitch
      exact .switchedOn hswitch (by simpa [Session.active] using hactive)

lemma moves_deactivate [Memory] {c : Session.Call}
    (hc : ∀ s, w.sessions[k]? = some s → c.switch s.active = false) :
    w.Moves (w.perform (Act.deactivate k k)).2 k (Session.Becomes k · c) := by
  rw [Act.deactivate, perform_get_bind]
  cases hs : w.sessions[k]? with
  | none => exact .stay fun s h => by cases hs.symm.trans h
  | some s =>
    have hswitch := hc s hs
    unfold Session.active at hswitch
    cases hkept : s.kept with
    | none =>
      simp only [hkept, Option.bind_some]
      refine .stay fun s' hs' => ?_
      cases hs.symm.trans hs'
      exact .stays (by simpa [Session.active, hkept] using hswitch)
    | some h =>
      simp only [hkept, Option.bind_some, update_update]
      refine moves_update fun s' hs' => ?_
      cases hs.symm.trans hs'
      rw [hkept] at hswitch
      exact .switchedOff hswitch hkept

/-- Work followed by a look at what it has led to. -/
lemma perform_bind_look {α β : Type} (work : Act α) {next : α → Act β}
    (h : ∀ a (w' : Workspace), (w'.perform (next a)).2 = w') :
    (w.perform (work >>= next)).2 = (w.perform work).2 := by
  unfold Workspace.perform at h ⊢
  rw [run_bind]
  rcases work.run.run w with ⟨f | a, w'⟩
  · rfl
  · exact h a w'

lemma moves_indentLine [Memory] {c : Session.Call} (hc : ∀ on, c.switch on = on) :
    w.Moves (w.perform (Act.indentLine k)).2 k (Session.Becomes k · c) :=
  moves_edit_inText _ hc fun s => (keeps_inText_indentLine s none none none).map

/-- A call does to its session what it can do to it, whether it succeeds or fails. -/
theorem moves_call [Memory] (h : ∀ s, w.sessions[k]? = some s → s.handler.Own k)
    (c : Session.Call) :
    w.Moves (w.call k c) k (Session.Becomes k · c) := by
  cases c with
  | toggle =>
    change w.Moves (w.perform (if w.sessions[k]?.any (·.active) then do
        Act.deactivate k k
        return Reply.flag (← Act.isActive k)
      else do
        Act.activate k k
        return Reply.flag (← Act.isActive k))).2 k _
    split
    · next hon =>
      rw [perform_bind_look _ fun _ _ => rfl]
      exact moves_deactivate fun s hs => by simpa [hs, Session.Call.switch] using hon
    · next hoff =>
      rw [perform_bind_look _ fun _ _ => rfl]
      exact moves_activate fun s hs => by simpa [hs, Session.Call.switch] using hoff
  | activate =>
    have hmoves := moves_activate (w := w) (k := k) (c := .activate) fun _ _ => rfl
    rwa [call, Session.Call.act, perform_bind_look _ fun _ _ => rfl]
  | deactivate =>
    have hmoves := moves_deactivate (w := w) (k := k) (c := .deactivate) fun _ _ => rfl
    rwa [call, Session.Call.act, perform_bind_look _ fun _ _ => rfl]
  | indent =>
    rw [call, Session.Call.act, Act.indent, perform_get_bind]
    cases hs : w.sessions[k]? with
    | none => exact .stay fun s h => by cases hs.symm.trans h
    | some s =>
      have hown := h s hs
      rw [Option.map_some]
      generalize hhandler : s.handler = handler at hown ⊢
      cases hown with
      | tabStop =>
        exact moves_edit_inText _ (fun _ => rfl) fun s =>
          (Edit.keeps_inText_insertTabStop s.tabWidth).bind fun _ => .pure _
      | indentLine => exact moves_indentLine fun _ => rfl
      | custom work =>
        refine moves_edit _ _ fun s' hs' => .edited rfl fun hminds => ?_
        cases hs.symm.trans hs'
        rw [hhandler] at hminds
        cases hminds with
        | custom hwork => exact (hwork s.settings).keeps_inText s.buffer
  | indentLine => exact moves_indentLine fun _ => rfl
  | indentBuffer =>
    exact moves_edit_inText _ (fun _ => rfl) fun s => (keeps_inText_indentBuffer s none).map
  | insert p s =>
    exact moves_edit_inText _ (fun _ => rfl) fun _ =>
      (Edit.keeps_inText_insert p s).bind fun _ => .pure _
  | moveCursor p =>
    exact moves_edit_inText _ (fun _ => rfl) fun _ =>
      (Edit.keeps_inText_moveCursor p).bind fun _ => .pure _
  | configure settings => exact moves_update fun s _ => .configured

end Workspace

/-! What all calls keep. -/

/-- How session `k` starts: with the usual indent action or any other work on its document, with its
mode off, and with the cursor in the text. -/
structure Session.Starts (k : Nat) (s : Session) : Prop where
  handler : s.handler = .tabStop k ∨ ∃ work, s.handler = .custom k work
  kept : s.kept = none
  inText : s.buffer.InText

def Workspace.Starts (w : Workspace) : Prop := ∀ k s, w.sessions[k]? = some s → Session.Starts k s

/-- What holds at every moment of a session that started as `start`: its mode is off and the handler
is the first one, or its mode is on and keeps it; and if that one minds the cursor, it is in the
text. -/
structure Session.Follows [Memory] (start : Session) (k : Nat) (s : Session) : Prop where
  handlers : s.kept = none ∧ s.handler = start.handler ∨
    s.kept = some start.handler ∧ s.handler = .indentLine k
  inText : start.handler.MindsCursor → s.buffer.InText

namespace Session

variable {start s s' : Session} {k : Nat} {c : Session.Call}

lemma Starts.own (h : Session.Starts k s) : s.handler.Own k := by
  rcases h.handler with hh | ⟨work, hh⟩
  · rw [hh]
    exact .tabStop
  · rw [hh]
    exact .custom work

lemma Starts.handler_ne (h : Session.Starts k s) : s.handler ≠ .indentLine k := by
  rcases h.handler with hh | ⟨work, hh⟩
  · simp [hh]
  · simp [hh]

/-- The handler in use minds the cursor if the first one does. -/
lemma Follows.mindsCursor [Memory] (h : start.Follows k s) (hminds : start.handler.MindsCursor) :
    s.handler.MindsCursor := by
  rcases h.handlers with ⟨_, hh⟩ | ⟨_, hh⟩
  · rwa [hh]
  · rw [hh]
    exact .indentLine k

lemma Follows.own [Memory] (h : start.Follows k s) (hown : start.handler.Own k) :
    s.handler.Own k := by
  rcases h.handlers with ⟨_, hh⟩ | ⟨_, hh⟩
  · rwa [hh]
  · rw [hh]
    exact .indentLine

lemma Follows.becomes [Memory] (h : start.Follows k s) (hb : s.Becomes k c s') :
    start.Follows k s' := by
  have hminds := h.mindsCursor
  obtain ⟨hhandlers, htext⟩ := h
  cases hb with
  | edited _ hbuffer => exact ⟨hhandlers, fun hstart => hbuffer (hminds hstart) (htext hstart)⟩
  | configured => exact ⟨hhandlers, htext⟩
  | stays _ => exact ⟨hhandlers, htext⟩
  | switchedOn _ hk =>
    rcases hhandlers with ⟨_, hh⟩ | ⟨hkept, _⟩
    · exact ⟨.inr ⟨congrArg some hh, rfl⟩, htext⟩
    · exact nomatch hk.symm.trans hkept
  | switchedOff _ hk =>
    rcases hhandlers with ⟨hkept, _⟩ | ⟨hkept, _⟩
    · exact nomatch hk.symm.trans hkept
    · exact ⟨.inl ⟨rfl, Option.some.inj (hk.symm.trans hkept)⟩, htext⟩

lemma Becomes.active_eq [Memory] (h : s.Becomes k c s') : s'.active = c.switch s.active := by
  cases h with
  | edited hc _ => exact hc.symm
  | configured => rfl
  | stays hc => exact hc.symm
  | switchedOn hc hk =>
    rw [Session.active, Session.active, hk]
    exact hc.symm
  | switchedOff hc hk =>
    rw [Session.active, Session.active, hk]
    exact hc.symm

lemma switched_concat (k : Nat) (calls : List (Nat × Session.Call)) (c : Nat × Session.Call) :
    switched k (calls ++ [c]) =
      if c.1 = k then c.2.switch (switched k calls) else switched k calls := by
  simp [switched]

end Session

namespace Workspace

/-- Every session has followed its start, and the calls to it tell whether its mode is on. -/
def Keeping [Memory] (w w' : Workspace) (calls : List (Nat × Session.Call)) : Prop :=
  ∀ k, Option.Rel (fun s s' => s.Follows k s' ∧ s'.active = Session.switched k calls)
    w.sessions[k]? w'.sessions[k]?

variable {w w' : Workspace} {calls : List (Nat × Session.Call)}

lemma keeping_start [Memory] (h : w.Starts) : w.Keeping w [] := by
  intro k
  cases hs : w.sessions[k]? with
  | none => exact .none
  | some s =>
    have hstart := h k s hs
    refine .some ⟨⟨.inl ⟨hstart.kept, rfl⟩, fun _ => hstart.inText⟩, ?_⟩
    rw [Session.active, hstart.kept]
    rfl

/-- The indent action of a session is its own at every moment. -/
lemma Keeping.own [Memory] (h : w.Keeping w' calls) (hw : w.Starts) (k : Nat) {s' : Session}
    (hs' : w'.sessions[k]? = some s') : s'.handler.Own k := by
  have hk := h k
  rw [hs'] at hk
  cases hs : w.sessions[k]? with
  | none =>
    rw [hs] at hk
    cases hk
  | some s =>
    rw [hs] at hk
    cases hk with
    | some hfollows => exact hfollows.1.own (hw k s hs).own

/-- One more call. -/
lemma Keeping.call [Memory] (h : w.Keeping w' calls) (hw : w.Starts) (j : Nat) (c : Session.Call) :
    w.Keeping (w'.call j c) (calls ++ [(j, c)]) := by
  intro k
  have hmoves := moves_call (fun _ hs' => h.own hw j hs') c
  have hk := h k
  rw [Session.switched_concat]
  by_cases hjk : j = k
  · subst hjk
    have hhere := hmoves.here
    generalize w.sessions[j]? = start at hk ⊢
    generalize w'.sessions[j]? = now at hk hhere
    generalize (w'.call j c).sessions[j]? = next at hhere ⊢
    cases hk with
    | none =>
      cases hhere
      exact .none
    | some hfollows =>
      cases hhere with
      | some hbecomes =>
        refine .some ⟨hfollows.1.becomes hbecomes, ?_⟩
        rw [hbecomes.active_eq, hfollows.2, if_pos rfl]
  · rw [hmoves.elsewhere k (Ne.symm hjk)]
    simpa only [if_neg hjk] using hk

/-- Calls of any number, one after the other. -/
theorem keeping_after [Memory] (hw : w.Starts) (calls : List (Nat × Session.Call)) :
    w.Keeping (w.after calls) calls := by
  -- The last call is the one that is looked at, since the start of the sessions stays the same.
  induction calls using List.reverseRecOn with
  | nil => exact keeping_start hw
  | append_singleton calls c ih =>
    rw [after, List.foldl_concat]
    exact ih.call hw c.1 c.2

end Workspace

section Ample

attribute [local instance] Memory.ample

end Ample
end SqlMargin
