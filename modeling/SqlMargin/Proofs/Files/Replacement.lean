import SqlMargin.Proofs.Files.Disk

/-! Replacements, whichever of their calls fail. The target keeps its file, or it has the new bytes
and the permissions expected; nothing else on the disk has changed, and the file beside is gone. If
no call fails, replacements succeed. -/
namespace SqlMargin

namespace Mode

/-- Bits above the permissions may go, the permissions stay. -/
lemma bits_without_mod (m : Mode) {bit : Nat} (h : 9 ≤ bit) :
    (m.without bit).bits % 512 = m.bits % 512 := by
  have hpow : Nat.pow 2 bit = 512 * 2 ^ (bit - 9) := by
    change 2 ^ bit = 2 ^ 9 * 2 ^ (bit - 9)
    rw [← Nat.pow_add]
    congr 1
    omega
  unfold without
  split
  · next hbit =>
    have hle : Nat.pow 2 bit ≤ m.bits := Nat.ge_two_pow_of_testBit hbit
    rw [hpow] at hle ⊢
    exact Nat.sub_mul_mod hle
  · rfl

lemma bits_withoutRights_mod (m : Mode) : m.withoutRights.bits % 512 = m.bits % 512 := by
  unfold withoutRights
  split
  · rw [bits_without_mod _ (by decide), bits_without_mod _ (by decide)]
  · exact bits_without_mod m (by decide)

lemma bits_withBits_mod (m : Mode) (u : User) (bits : Nat) :
    (m.withBits u bits).bits % 512 = bits % 512 := by
  unfold withBits
  split
  · rfl
  · exact bits_without_mod _ (by decide)

lemma owner_without (m : Mode) (bit : Nat) : (m.without bit).owner = m.owner := by
  unfold without
  split <;> rfl

lemma group_without (m : Mode) (bit : Nat) : (m.without bit).group = m.group := by
  unfold without
  split <;> rfl

lemma owner_withoutRights (m : Mode) : m.withoutRights.owner = m.owner := by
  unfold withoutRights
  split <;> simp only [owner_without]

lemma group_withoutRights (m : Mode) : m.withoutRights.group = m.group := by
  unfold withoutRights
  split <;> simp only [group_without]

lemma owner_withBits (m : Mode) (u : User) (bits : Nat) : (m.withBits u bits).owner = m.owner := by
  unfold withBits
  split
  · rfl
  · rw [owner_without]

/-- The mode of a file that a user has put in another one's place. It has the permissions of that,
and its owner and group, or these could not be given back and the file is the user's own. -/
structure Replaces (new old : Mode) (u : User) (plan : Plan) : Prop where
  bits : new.bits % 512 = old.bits % 512
  owner : new.owner = old.owner ∧ new.group = old.group ∨ plan .setOwner ≠ none ∧ new.owner = u.id

lemma Replaces.refl (m : Mode) (u : User) (plan : Plan) : m.Replaces m u plan :=
  ⟨rfl, .inl ⟨rfl, rfl⟩⟩

end Mode

namespace Disk

/-- A disk with new bytes in a file. The file has kept its permissions, and all other locations are
as they were. -/
structure Rewrites (d d' : Disk) (loc : List String) (mode : Mode) (bytes : List UInt8) : Prop where
  file : ∃ f, d'.node? loc = some (.file f) ∧ f.bytes = bytes ∧ f.mode.bits % 512 = mode.bits % 512
  others : ∀ l, l ≠ loc → d'.node? l = d.node? l

lemma Rewrites.refl {d : Disk} {loc : List String} {f : File}
    (h : d.node? loc = some (.file f)) : d.Rewrites d loc f.mode f.bytes :=
  ⟨⟨f, h, rfl, rfl⟩, fun _ _ => rfl⟩

lemma Gains.rewrites {d d' : Disk} {loc : List String} {f : File} {mode : Mode}
    (h : d.Gains d' loc f) (hmode : f.mode.bits % 512 = mode.bits % 512) :
    d.Rewrites d' loc mode f.bytes := ⟨⟨f, h.file, rfl, hmode⟩, h.others⟩

end Disk

namespace Attempt

/-- An attempt that leaves nothing behind once it is cleaned up. -/
def Undone (a : Attempt) (d : Disk) : Prop := ∀ l, a.cleanUp.disk.node? l = d.node? l

/-- An attempt that has put a file beside the target. -/
structure Makes (a : Attempt) (d : Disk) (beside : List String) (f : File) : Prop where
  held : a.beside = some beside
  gains : d.Gains a.disk beside f

/-- An attempt whose file has come to stand in the target's place. -/
structure Replaces (a : Attempt) (d : Disk) (target : List String) (f : File) : Prop where
  free : a.beside = none
  gains : d.Gains a.disk target f

variable {a : Attempt} {d : Disk} {beside target : List String} {f : File}

lemma Makes.undone (h : a.Makes d beside f) (hfree : d.node? beside = none) : a.Undone d := by
  intro l
  rw [cleanUp, h.held]
  refine (Disk.node?_remove_of_ne (Disk.ne_nil_of_file h.gains.file) l).trans ?_
  split
  · next hl => rw [hl, hfree]
  · next hl => exact h.gains.others l hl

lemma Replaces.gains_cleanUp (h : a.Replaces d target f) : d.Gains a.cleanUp.disk target f := by
  rw [cleanUp, h.free]
  exact h.gains

end Attempt

namespace Attempting

variable {plan : Plan} {a : Attempt} {beside target : List String} {d : Disk} {f : File} {u : User}

/-! A call has its effect, or it fails and nothing has happened. -/

lemma leads_call (plan : Plan) (c : Call) (effect : Disk → Disk) (a : Attempt) :
    Leads a (call plan c effect)
      (fun _ a' => a' = { a with disk := effect a.disk } ∧ plan c = none)
      fun e a' => a' = a ∧ plan c = some e := by
  unfold call
  cases plan c with
  | none => exact ⟨rfl, rfl⟩
  | some e => exact ⟨rfl, rfl⟩

lemma leads_create (hbeside : beside ≠ []) (u : User) (plan : Plan) (device : Nat) :
    Leads { disk := d } (create u plan beside device)
      (fun _ a => a.beside = none ∧ ∃ f, d.Gains a.disk beside f ∧ f.mode.owner = u.id)
      fun _ a => a.Undone d := by
  change Leads _ (if (d.directoryMode beside.dropLast).mayWrite u = true then
    call plan .create (·.create u beside device) else throw .noAccess) _ _
  split
  · refine (leads_call plan .create _ _).imp ?_ ?_
    · rintro _ _ ⟨rfl, -⟩
      exact ⟨rfl, Disk.gains_create hbeside u device⟩
    · rintro _ _ ⟨rfl, -⟩
      exact fun _ => rfl
  · exact fun _ => rfl

/-- A call that changes the file beside the target. -/
lemma leads_change {f' : File} {effect : Disk → Disk} (h : a.Makes d beside f)
    (hfree : d.node? beside = none) (plan : Plan) (c : Call)
    (heffect : d.Gains (effect a.disk) beside f') :
    Leads a (call plan c effect) (fun _ a' => a'.Makes d beside f') fun _ a' => a'.Undone d := by
  refine (leads_call plan c effect a).imp ?_ ?_
  · rintro _ _ ⟨rfl, -⟩
    exact ⟨h.held, heffect⟩
  · rintro _ _ ⟨rfl, -⟩
    exact h.undone hfree

/-- Whoever may not give a file away keeps it, with all rights. -/
lemma leads_keepOwner {expected : Mode} (h : a.Makes d beside f) (hfree : d.node? beside = none)
    (hbits : f.mode.bits % 512 = expected.bits % 512) (howner : f.mode.owner = u.id) (plan : Plan)
    (warning : String) :
    Leads a (keepOwner plan beside expected warning)
      (fun _ a' => ∃ f', a'.Makes d beside f' ∧ f'.bytes = f.bytes ∧
        f'.mode.Replaces expected u plan) fun _ a' => a'.Undone d := by
  unfold keepOwner
  split
  · refine ⟨_, ⟨h.held, h.gains.updateFile _⟩, rfl, ?_, .inl ⟨?_, ?_⟩⟩
    · rw [Mode.bits_withoutRights_mod]
      exact hbits
    · rw [Mode.owner_withoutRights]
    · rw [Mode.group_withoutRights]
  · next e hplan =>
    split
    · refine ⟨f, ⟨h.held, h.gains⟩, rfl, hbits, .inr ⟨?_, howner⟩⟩
      rw [hplan]
      exact Option.some_ne_none e
    · exact h.undone hfree

/-- The first part of a replacement: a file is made beside the target. -/
def makeFile (u : User) (plan : Plan) (beside : List String) (bytes : List UInt8) (expected : Stat)
    (warning : String) : Attempting Unit := do
  create u plan beside expected.stamp.device
  modify fun a => { a with beside := some beside }
  call plan .write (·.updateFile beside fun f => { f with bytes })
  call plan .sync id
  call plan .setMode
    (·.updateFile beside fun f => { f with mode := f.mode.withBits u expected.mode.bits })
  keepOwner plan beside expected.mode warning

/-- The second part: the file takes the target's place. -/
def putInPlace (plan : Plan) (target beside : List String) (initial : Stat) : Attempting Unit := do
  call plan .rename (·.rename beside target)
  modify fun a => { a with beside := none }
  call plan .lookAgain id
  call plan .setTimes (·.updateFile target fun f => { f with accessed := initial.accessed })

lemma replaceFile_eq (u : User) (plan : Plan) (target beside : List String) (bytes : List UInt8)
    (expected initial : Stat) (warning : String) :
    replaceFile u plan target beside bytes expected initial warning =
      makeFile u plan beside bytes expected warning >>= fun _ =>
        putInPlace plan target beside initial := by
  simp only [replaceFile, makeFile, putInPlace, bind_assoc]

section Parts

variable {bytes : List UInt8} {expected initial : Stat} {warning : String}

lemma leads_makeFile (hbeside : beside ≠ []) (hfree : d.node? beside = none) (u : User)
    (plan : Plan) :
    Leads { disk := d } (makeFile u plan beside bytes expected warning)
      (fun _ a => ∃ f, a.Makes d beside f ∧ f.bytes = bytes ∧
        f.mode.Replaces expected.mode u plan) fun _ a => a.Undone d := by
  refine (leads_create hbeside u plan _).bind ?_
  rintro _ made ⟨-, f, hf, howner⟩
  refine (Leads.modify _).bind ?_
  rintro _ _ rfl
  have hmakes : ({ made with beside := some beside } : Attempt).Makes d beside f := ⟨rfl, hf⟩
  refine (leads_change hmakes hfree plan .write (hf.updateFile _)).bind fun _ written hwritten => ?_
  refine (leads_change hwritten hfree plan .sync hwritten.gains).bind fun _ synced hsynced => ?_
  refine (leads_change hsynced hfree plan .setMode (hsynced.gains.updateFile _)).bind ?_
  refine fun _ opened hopened => leads_keepOwner hopened hfree ?_ ?_ plan warning
  · exact Mode.bits_withBits_mod ..
  · exact (Mode.owner_withBits ..).trans howner

/-- What comes after the renaming may fail, but no longer keeps the file from its place. -/
lemma leads_putInPlace {g : File} (h : a.Makes d beside f) (hfree : d.node? beside = none)
    (htarget : d.node? target = some (.file g)) (plan : Plan) :
    Leads a (putInPlace plan target beside initial)
      (fun _ a' => (∃ accessed, a'.Replaces d target { f with accessed }) ∧
        plan .lookAgain = none ∧ plan .setTimes = none)
      fun _ a' => a'.Undone d ∨ (∃ accessed, a'.Replaces d target { f with accessed }) ∧
        ¬ (plan .lookAgain = none ∧ plan .setTimes = none) := by
  refine ((leads_call plan .rename _ a).imp (fun _ _ => And.left) ?_).bind ?_
  · rintro _ _ ⟨rfl, -⟩
    exact .inl (h.undone hfree)
  rintro _ _ rfl
  refine (Leads.modify _).bind ?_
  rintro _ _ rfl
  have hmoved := h.gains.rename hfree htarget
  refine ((leads_call plan .lookAgain id _).imp (fun _ _ => id) ?_).bind ?_
  · rintro e _ ⟨rfl, hlook⟩
    refine .inr ⟨⟨f.accessed, rfl, hmoved⟩, fun hnone => ?_⟩
    exact nomatch hnone.1.symm.trans hlook
  rintro _ _ ⟨rfl, hlook⟩
  refine (leads_call plan .setTimes _ _).imp ?_ ?_
  · rintro _ _ ⟨rfl, htimes⟩
    exact ⟨⟨initial.accessed, rfl, hmoved.updateFile _⟩, hlook, htimes⟩
  · rintro e _ ⟨rfl, htimes⟩
    refine .inr ⟨⟨f.accessed, rfl, hmoved⟩, fun hnone => ?_⟩
    exact nomatch hnone.2.symm.trans htimes

/-- A replacement leaves nothing behind, or it puts a complete file in the target's place. It
succeeds if it does and nothing fails that comes after the renaming. -/
theorem leads_replaceFile {g : File} (hbeside : beside ≠ []) (hfree : d.node? beside = none)
    (htarget : d.node? target = some (.file g)) (u : User) (plan : Plan) (bytes : List UInt8)
    (expected initial : Stat) (warning : String) :
    let done (a : Attempt) := ∃ f, a.Replaces d target f ∧ f.bytes = bytes ∧
      f.mode.Replaces expected.mode u plan
    let goesOn := plan .lookAgain = none ∧ plan .setTimes = none
    Leads { disk := d } (replaceFile u plan target beside bytes expected initial warning)
      (fun _ a => done a ∧ goesOn) fun _ a => a.Undone d ∨ done a ∧ ¬ goesOn := by
  intro done goesOn
  rw [replaceFile_eq]
  refine ((leads_makeFile hbeside hfree u plan).imp (fun _ _ => id) fun _ _ => Or.inl).bind ?_
  rintro _ made ⟨f, hf, hbytes, hmode⟩
  refine (leads_putInPlace hf hfree htarget plan).imp ?_ ?_
  · rintro _ a ⟨⟨accessed, hplaced⟩, hgoes⟩
    exact ⟨⟨_, hplaced, hbytes, hmode⟩, hgoes⟩
  · rintro _ a (hundone | ⟨⟨accessed, hplaced⟩, hstops⟩)
    · exact .inl hundone
    · exact .inr ⟨⟨_, hplaced, hbytes, hmode⟩, hstops⟩

end Parts

/-- A replacement none of whose calls fails. -/
lemma run_replaceFile (h : (d.directoryMode beside.dropLast).mayWrite u = true)
    (target : List String) (bytes : List UInt8) (expected initial : Stat) (warning : String) :
    ∃ d', (replaceFile u .sound target beside bytes expected initial warning).run.run
      { disk := d } = (.ok (), { disk := d' }) := by
  have hcreate : (create u .sound beside expected.stamp.device).run.run { disk := d } =
      (.ok (), { disk := d.create u beside expected.stamp.device }) := by
    change (if (d.directoryMode beside.dropLast).mayWrite u = true then
      call .sound .create (·.create u beside expected.stamp.device)
      else throw .noAccess).run.run { disk := d } = _
    rw [if_pos h]
    rfl
  rw [replaceFile, run_bind_ok hcreate]
  exact ⟨_, rfl⟩

end Attempting

namespace View

variable {v : View} {p : Path} {loc : List String} {f : File} {expected : Stat}

/-- A replacement fails at once, unless the file is there in the state expected. -/
lemma replaceContent_starts (v : View) (plan : Plan) (p : Path) (content : List Char)
    (expected initial : Stat) :
    let r := v.replaceContent plan p content expected initial
    (r.disk = v.disk ∧ ∃ e, r.outcome = .error e) ∨
      plan .lookUp = none ∧ ∃ loc f, v.fileAt p = .ok (loc, f) ∧
        expected.ensureUnchanged f.stat p = .ok () := by
  unfold replaceContent
  cases hlook : plan .lookUp with
  | some e => exact .inl ⟨rfl, _, rfl⟩
  | none =>
    cases hfile : v.fileAt p with
    | error e => exact .inl ⟨rfl, _, rfl⟩
    | ok found =>
      obtain ⟨loc, f⟩ := found
      cases hsame : expected.ensureUnchanged f.stat p with
      | error e =>
        refine .inl ?_
        dsimp only
        rw [hsame]
        exact ⟨rfl, _, rfl⟩
      | ok u => exact .inr ⟨rfl, loc, f, rfl, hsame⟩

/-- A replacement of a file that is in the state expected, whichever calls may fail. -/
lemma replaceContent_cases {plan : Plan} (content : List Char) (initial : Stat)
    (hlook : plan .lookUp = none) (hfile : v.fileAt p = .ok (loc, f))
    (hsame : expected.ensureUnchanged f.stat p = .ok ()) :
    let r := v.replaceContent plan p content expected initial
    ((∀ l, r.disk.node? l = v.disk.node? l) ∧ ∃ e, r.outcome = .error e) ∨
      (∃ f', v.disk.Gains r.disk loc f' ∧ f'.bytes = Text.Utf8.encode content ∧
        f'.mode.Replaces expected.mode v.user plan) ∧
        (r.outcome = .ok () ↔ plan .lookAgain = none ∧ plan .setTimes = none) := by
  obtain ⟨_, hnode⟩ := node_eq_ok_iff.1 (fileAt_eq_ok_iff.1 hfile)
  have hfree := v.disk.node?_freshName loc.dropLast
  have hleads := Attempting.leads_replaceFile (by simp) hfree hnode v.user plan
    (Text.Utf8.encode content) expected initial (ownerWarning p)
  unfold replaceContent
  rw [hlook, hfile]
  dsimp only at hleads ⊢
  rw [hsame]
  dsimp only
  rcases hrun : (Attempting.replaceFile v.user plan loc (loc.dropLast ++ [v.disk.freshName])
    (Text.Utf8.encode content) expected initial (ownerWarning p)).run.run
      { disk := v.disk } with ⟨e | _, a⟩
  · rcases hleads.of_error hrun with hundone | ⟨⟨f', hf', hbytes, hmode⟩, hstops⟩
    · exact .inl ⟨hundone, _, rfl⟩
    · refine .inr ⟨⟨f', hf'.gains_cleanUp, hbytes, hmode⟩, nofun, ?_⟩
      exact fun hgoes => absurd hgoes hstops
  · obtain ⟨⟨f', hf', hbytes, hmode⟩, hgoes⟩ := hleads.of_ok hrun
    exact .inr ⟨⟨f', hf'.gains_cleanUp, hbytes, hmode⟩, fun _ => hgoes, fun _ => rfl⟩

/-- New content that was written in place of a file's. -/
theorem gains_replaceContent {plan : Plan} {content : List Char} {initial : Stat} {disk : Disk}
    {warnings : List String} (hfile : v.fileAt p = .ok (loc, f))
    (h : v.replaceContent plan p content expected initial = ⟨.ok (), disk, warnings⟩) :
    ∃ f', v.disk.Gains disk loc f' ∧ f'.bytes = Text.Utf8.encode content ∧
      f'.mode.Replaces expected.mode v.user plan := by
  rcases replaceContent_starts v plan p content expected initial with
    ⟨-, e, he⟩ | ⟨hlook, loc', f₀, hfile', hsame⟩
  · rw [h] at he
    cases he
  · cases hfile.symm.trans hfile'
    have hcases := replaceContent_cases content initial hlook hfile hsame
    rw [h] at hcases
    rcases hcases with ⟨-, e, he⟩ | ⟨hgains, -⟩
    · cases he
    · exact hgains

/-- New content in place of a file's, which is in the state expected and in a directory that may be
changed. -/
theorem replaceContent_sound (hfile : v.fileAt p = .ok (loc, f))
    (hstamp : expected.stamp = f.stat.stamp)
    (hwrite : (v.disk.directoryMode loc.dropLast).mayWrite v.user = true) (content : List Char)
    (initial : Stat) :
    ∃ disk, v.replaceContent .sound p content expected initial = ⟨.ok (), disk, []⟩ ∧
      v.disk.Rewrites disk loc expected.mode (Text.Utf8.encode content) := by
  have hdirectory : (v.disk.directoryMode
      (loc.dropLast ++ [v.disk.freshName]).dropLast).mayWrite v.user = true := by
    rwa [List.dropLast_concat]
  obtain ⟨disk, hrun⟩ := Attempting.run_replaceFile hdirectory loc (Text.Utf8.encode content) expected
    initial (ownerWarning p)
  have hsame : expected.ensureUnchanged f.stat p = .ok () := if_pos hstamp
  have hreplace : v.replaceContent .sound p content expected initial = ⟨.ok (), disk, []⟩ := by
    unfold replaceContent
    dsimp only [Plan.sound]
    rw [hfile]
    dsimp only
    rw [hsame]
    dsimp only
    rw [hrun]
    rfl
  obtain ⟨f', hgains, hbytes, hmode⟩ := gains_replaceContent hfile hreplace
  exact ⟨disk, hreplace, hbytes ▸ hgains.rewrites hmode.bits⟩

/-- Whichever calls fail, a replacement is all or nothing: it fails and has changed nothing, or the
new content is in its place and nothing else has changed. In the second case it may still fail, if a
call does that comes after the renaming. -/
theorem replaceContent_atomic (v : View) (plan : Plan) (p : Path) (content : List Char)
    (expected initial : Stat) :
    let r := v.replaceContent plan p content expected initial
    ((∀ l, r.disk.node? l = v.disk.node? l) ∧ ∃ e, r.outcome = .error e) ∨
      ∃ loc f, v.fileAt p = .ok (loc, f) ∧
        v.disk.Rewrites r.disk loc expected.mode (Text.Utf8.encode content) ∧
        (r.outcome = .ok () ↔ plan .lookAgain = none ∧ plan .setTimes = none) := by
  rcases replaceContent_starts v plan p content expected initial with
    ⟨hdisk, he⟩ | ⟨hlook, loc, f, hfile, hsame⟩
  · exact .inl ⟨fun l => congrArg (·.node? l) hdisk, he⟩
  · refine (replaceContent_cases content initial hlook hfile hsame).imp_right ?_
    rintro ⟨⟨f', hgains, hbytes, hmode⟩, hgoes⟩
    exact ⟨loc, f, hfile, hbytes ▸ hgains.rewrites hmode.bits, hgoes⟩

example :
    let f : File := ⟨[], .plainFile, 1, 0, 0, 0⟩
    let v : View := { disk := { nodes := [(["q.sql"], .file f)] }, cwd := [] }
    let plan : Plan := fun c => if c = .setTimes then some .notPermitted else none
    let r := v.replaceContent plan (.ofLocation ["q.sql"]) ['a'] f.stat f.stat
    r.outcome = .error (.unwritten "/q.sql" ⟨.notPermitted, none⟩) ∧
      (v.disk.node? ["q.sql"] ≠ r.disk.node? ["q.sql"]) := by decide +kernel

end View
end SqlMargin
