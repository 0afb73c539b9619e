import SqlMargin.Proofs.Outcome
import SqlMargin.Toml.Parser

/-! Keys of a TOML document. Whatever is read, each table in it has each of its keys once. -/
namespace SqlMargin

/-- A value that holds no others. -/
def Value.Plain (v : Value) : Prop := Toml.isContainer v = false

/-- Each table in a value has each of its keys once. -/
inductive Value.Keyed : Value → Prop
  | plain {v : Value} (h : v.Plain) : Keyed v
  | list {items : List Value} (h : ∀ v ∈ items, Keyed v) : Keyed (.list items)
  | table {t : List (String × Value)} (hkeys : (t.map (·.1)).Nodup) (h : ∀ e ∈ t, Keyed e.2) :
      Keyed (.table t)

namespace Toml

/-- So has each table in some entries, and they have each key once themselves. -/
def Entries.Keyed (t : Entries) : Prop := (t.map (·.1)).Nodup ∧ ∀ e ∈ t, e.2.Keyed

lemma keyed_table_iff {t : Entries} : (Value.table t).Keyed ↔ t.Keyed := by
  constructor
  · intro h
    cases h with
    | plain h => cases h
    | table hkeys h => exact ⟨hkeys, h⟩
  · exact fun h => .table h.1 h.2

lemma keyed_list_iff {items : List Value} : (Value.list items).Keyed ↔ ∀ v ∈ items, v.Keyed := by
  constructor
  · intro h
    cases h with
    | plain h => cases h
    | list h => exact h
  · exact .list

/-! Tables under construction. -/

section Entries

variable {k : String} {v : Value} {t : Entries}

lemma Entries.keyed_nil : Entries.Keyed [] := ⟨.nil, nofun⟩

lemma Entries.Keyed.of_lookup (h : t.Keyed) (hv : t.lookup k = some v) : v.Keyed := by
  obtain ⟨before, after, rfl, -⟩ := List.lookup_eq_some_iff.1 hv
  exact h.2 (k, v) (by simp)

lemma Entries.Keyed.concat (h : t.Keyed) (hk : t.lookup k = none) (hv : v.Keyed) :
    Entries.Keyed (t ++ [(k, v)]) := by
  rw [List.lookup_eq_none_iff] at hk
  constructor
  · rw [List.map_append, List.nodup_append]
    refine ⟨h.1, by simp, fun a ha b hb => ?_⟩
    obtain ⟨e, he, rfl⟩ := List.mem_map.1 ha
    rw [List.mem_singleton.1 hb]
    exact fun hek => by simpa [hek] using hk e he
  · intro e he
    rw [List.mem_append, List.mem_singleton] at he
    rcases he with he | rfl
    · exact h.2 e he
    · exact hv

lemma Entries.Keyed.replaceEntry (h : t.Keyed) (hv : v.Keyed) :
    Entries.Keyed (replaceEntry k v t) := by
  have hkeys : (Toml.replaceEntry k v t).map (·.1) = t.map (·.1) := by
    rw [Toml.replaceEntry, List.map_map]
    refine List.map_congr_left fun e _ => ?_
    by_cases he : e.1 = k
    · simp [he]
    · simp [he]
  refine ⟨hkeys ▸ h.1, fun e he => ?_⟩
  obtain ⟨e', he', rfl⟩ := List.mem_map.1 he
  split
  · exact hv
  · exact h.2 e' he'

lemma Entries.Keyed.addNew? (h : t.Keyed) (hv : v.Keyed) {t' : Entries}
    (ht' : addNew? k v t = some t') : t'.Keyed := by
  unfold Toml.addNew? at ht'
  split at ht'
  · cases ht'
  · next hany =>
    cases ht'
    refine h.concat (List.lookup_eq_none_iff.2 fun e he => ?_) hv
    rw [bne_iff_ne]
    rintro rfl
    exact hany (List.any_eq_true.2 ⟨e, he, beq_self_eq_true _⟩)

lemma Entries.Keyed.addTable? (h : t.Keyed) {t' : Entries} (ht' : addTable? k t = some t') :
    t'.Keyed := by
  have hempty : (Value.table []).Keyed := keyed_table_iff.2 keyed_nil
  unfold Toml.addTable? at ht'
  split at ht'
  · next hk =>
    cases ht'
    exact h.concat hk (keyed_list_iff.2 (by simpa using hempty))
  · next items hk =>
    cases ht'
    have hitems := keyed_list_iff.1 (h.of_lookup hk)
    refine h.replaceEntry (keyed_list_iff.2 fun w hw => ?_)
    rw [List.mem_append, List.mem_singleton] at hw
    rcases hw with hw | rfl
    · exact hitems w hw
    · exact hempty
  · cases ht'

/-- A change that keeps keys apart does so at the end of a path. -/
lemma Entries.Keyed.alter? {arrays : Bool} {f : Entries → Option Entries}
    (hf : ∀ t t' : Entries, f t = some t' → t.Keyed → t'.Keyed) {path : List String}
    (h : t.Keyed) {t' : Entries} (ht' : alter? arrays f path t = some t') : t'.Keyed := by
  induction path generalizing t t' with
  | nil => exact hf t t' ht' h
  | cons k path ih =>
    rw [Toml.alter?] at ht'
    split at ht'
    · next hk =>
      obtain ⟨sub, hsub, rfl⟩ := Option.map_eq_some_iff.1 ht'
      exact h.concat hk (keyed_table_iff.2 (ih keyed_nil hsub))
    · next sub hk =>
      obtain ⟨sub', hsub', rfl⟩ := Option.map_eq_some_iff.1 ht'
      have hsub := keyed_table_iff.1 (h.of_lookup hk)
      exact h.replaceEntry (keyed_table_iff.2 (ih hsub hsub'))
    · next items hk =>
      have hitems := keyed_list_iff.1 (h.of_lookup hk)
      split at ht'
      · next sub hlast =>
        obtain ⟨sub', hsub', rfl⟩ := Option.map_eq_some_iff.1 ht'
        have hsub := keyed_table_iff.1 (hitems _ (List.mem_of_getLast? hlast))
        refine h.replaceEntry (keyed_list_iff.2 fun w hw => ?_)
        rw [List.mem_append, List.mem_singleton] at hw
        rcases hw with hw | rfl
        · exact hitems w (List.dropLast_subset items hw)
        · exact keyed_table_iff.2 (ih hsub hsub')
      · cases ht'
    · cases ht'

end Entries

/-! Values. -/

/-- What is read has a property. -/
structure Gives {α : Type} (P : α → Prop) (x : Except Fault (α × List Char)) : Prop where
  of_ok : ∀ a rest, x = .ok (a, rest) → P a

lemma Gives.bind {α β : Type} {P : α → Prop} {x : Except Fault β}
    {f : β → Except Fault (α × List Char)} (h : ∀ b, x = .ok b → Gives P (f b)) :
    Gives P (x >>= f) := by
  refine ⟨fun a rest hx => ?_⟩
  obtain ⟨b, hb, hf⟩ := bind_eq_ok_iff.1 hx
  exact (h b hb).of_ok a rest hf

lemma Gives.ok {α : Type} {P : α → Prop} {a : α} (h : P a) (rest : List Char) :
    Gives P (.ok (a, rest)) := ⟨fun _ _ ha => by cases ha; exact h⟩

lemma eq_some_of_orMalformed {α : Type} {x : Option α} {a : α} (h : orMalformed x = .ok a) :
    x = some a := by
  cases x with
  | none => cases h
  | some b => rw [Except.ok.inj h]

lemma Gives.error {α : Type} {P : α → Prop} (e : Fault) : Gives P (.error e) := ⟨nofun⟩

lemma gives_onLine {α : Type} {P : α → Prop} {read : List Char → Except Fault (α × List Char)}
    (h : ∀ line, Gives P (read line)) (s : List Char) : Gives P (onLine read s) := by
  refine ⟨fun a rest hs => ?_⟩
  obtain ⟨⟨a', left⟩, ha, hrest⟩ := exists_of_map_eq_ok hs
  cases hrest
  exact (h _).of_ok _ _ ha

lemma gives_decimal? {s : List Char} {x : Except Fault (Value × List Char)}
    (h : decimal? s = some x) : Gives Value.Plain x := by
  unfold decimal? at h
  simp only [Option.bind_eq_bind] at h
  -- Its digits begin with a zero that stands alone, or not; the rest is read alike.
  split at h
  all_goals
    obtain ⟨_, -, h⟩ := Option.bind_eq_some_iff.1 h
    split at h
    · split at h
      · cases h
        exact .ok (by rfl) _
      · cases h
        exact .error _
    · cases h
      exact .ok (by rfl) _

lemma gives_moment? {s : List Char} {x : Except Fault (Value × List Char)}
    (h : moment? s = some x) : Gives Value.Plain x := by
  unfold moment? at h
  split at h
  · split at h
    · cases h
      exact .error _
    · split at h
      · cases h
        exact .ok (by rfl) _
      · cases h
        exact .ok (by rfl) _
  · obtain ⟨⟨t, rest⟩, -, rfl⟩ := Option.map_eq_some_iff.1 h
    exact .ok (by rfl) _

lemma plain_based? {s rest : List Char} {v : Value} (h : based? s = some (v, rest)) :
    v.Plain := by
  unfold based? at h
  dsimp only at h
  split at h
  · obtain ⟨_, -, hv⟩ := Option.map_eq_some_iff.1 h
    cases hv
    rfl
  · obtain ⟨_, -, hv⟩ := Option.map_eq_some_iff.1 h
    cases hv
    rfl
  · obtain ⟨_, -, hv⟩ := Option.map_eq_some_iff.1 h
    cases hv
    rfl
  · cases h

lemma plain_special? {s rest : List Char} {v : Value} (h : special? s = some (v, rest)) :
    v.Plain := by
  unfold special? at h
  dsimp only at h
  split at h
  · cases h
    rfl
  · cases h
    rfl
  · cases h

/-- A scalar holds no tables. -/
lemma gives_scalar (s : List Char) : Gives Value.Plain (scalar s) := by
  unfold scalar
  split
  · exact .ok (by rfl) _
  · exact .ok (by rfl) _
  · split
    · next x hx => exact gives_moment? hx
    · split
      · next p hp => exact .ok (plain_based? hp) _
      · split
        · next x hx => exact gives_decimal? hx
        · split
          · next p hp => exact .ok (plain_special? hp) _
          · exact .error _

lemma gives_stringValue? {s : List Char} {x : Except Fault (Value × List Char)}
    (h : stringValue? s = some x) : Gives Value.Plain x := by
  cases s with
  | nil => cases h
  | cons c s =>
    rw [stringValue?] at h
    split at h
    · cases h
      refine ⟨fun v rest hv => ?_⟩
      obtain ⟨_, -, hv⟩ := exists_of_map_eq_ok hv
      cases hv
      rfl
    · cases h

/-- What is read with some fuel, by each of the functions that read values. -/
structure Keeps (n : Nat) : Prop where
  value : ∀ room s, Gives Value.Keyed (value n room s)
  array : ∀ room s, Gives Value.Keyed (array n room s)
  arrayItems : ∀ room s, Gives (∀ v ∈ ·, Value.Keyed v) (arrayItems n room s)
  inlineTable : ∀ room s, Gives Value.Keyed (inlineTable n room s)
  inlineEntries : ∀ room (done : Entries) frozen s, done.Keyed →
    Gives Entries.Keyed (inlineEntries n room done frozen s)
  keyValue : ∀ room s, Gives (·.2.Keyed) (keyValue n room s)

lemma Gives.plain {x : Except Fault (Value × List Char)} (h : Gives Value.Plain x) :
    Gives Value.Keyed x := ⟨fun v rest hx => .plain (h.of_ok v rest hx)⟩

namespace Keeps

variable {n : Nat} (h : Keeps n)
include h

lemma value_succ (room : Nat) (s : List Char) : Gives Value.Keyed (Toml.value (n + 1) room s) := by
  rw [Toml.value]
  split
  · next x hx => exact (gives_stringValue? hx).plain
  · split
    · exact h.array room _
    · split
      · exact h.inlineTable room _
      · exact (gives_onLine gives_scalar s).plain

lemma array_succ (room : Nat) (s : List Char) : Gives Value.Keyed (Toml.array (n + 1) room s) := by
  rw [Toml.array]
  split
  · exact .error _
  · refine .bind fun r _ => ?_
    split
    · exact .ok (keyed_list_iff.2 (by simp)) _
    · refine .bind fun x hx => ?_
      obtain ⟨items, after⟩ := x
      exact .ok (keyed_list_iff.2 ((h.arrayItems _ _).of_ok _ _ hx)) _

lemma arrayItems_succ (room : Nat) (s : List Char) :
    Gives (∀ v ∈ ·, Value.Keyed v) (Toml.arrayItems (n + 1) room s) := by
  rw [Toml.arrayItems]
  refine .bind fun x hx => ?_
  obtain ⟨v, rest⟩ := x
  have hfirst : v.Keyed := (h.value _ _).of_ok _ _ hx
  refine .bind fun r _ => ?_
  split
  · exact .ok (by simpa using hfirst) _
  · refine .bind fun r _ => .bind fun r _ => ?_
    split
    · exact .ok (by simpa using hfirst) _
    · refine .bind fun x hx => ?_
      obtain ⟨vs, after⟩ := x
      exact .ok (List.forall_mem_cons.2 ⟨hfirst, (h.arrayItems _ _).of_ok _ _ hx⟩) _

lemma inlineTable_succ (room : Nat) (s : List Char) :
    Gives Value.Keyed (Toml.inlineTable (n + 1) room s) := by
  rw [Toml.inlineTable]
  split
  · exact .error _
  · split
    · exact .ok (keyed_table_iff.2 Entries.keyed_nil) _
    · refine .bind fun x hx => ?_
      obtain ⟨entries, after⟩ := x
      exact .ok (keyed_table_iff.2 ((h.inlineEntries _ _ _ _ Entries.keyed_nil).of_ok _ _ hx)) _

lemma inlineEntries_succ (room : Nat) {done : Entries} (frozen : List (List String))
    (s : List Char) (hdone : done.Keyed) :
    Gives Entries.Keyed (Toml.inlineEntries (n + 1) room done frozen s) := by
  rw [Toml.inlineEntries]
  refine .bind fun x hx => ?_
  obtain ⟨⟨path, v⟩, rest⟩ := x
  have hv : v.Keyed := (h.keyValue _ _).of_ok _ _ hx
  dsimp only
  split
  · exact .error _
  · refine .bind fun t ht => ?_
    have hkeyed : t.Keyed :=
      hdone.alter? (fun _ _ hnew hkeyed => hkeyed.addNew? hv hnew) (eq_some_of_orMalformed ht)
    split
    · exact .ok hkeyed _
    · exact .bind fun r _ => h.inlineEntries _ _ _ _ hkeyed

lemma keyValue_succ (room : Nat) (s : List Char) :
    Gives (·.2.Keyed) (Toml.keyValue (n + 1) room s) := by
  rw [Toml.keyValue]
  refine .bind fun x _ => .bind fun r _ => .bind fun y hy => ?_
  obtain ⟨path, rest⟩ := x
  obtain ⟨v, rest⟩ := y
  refine .ok ?_ _
  exact (h.value _ _).of_ok _ _ hy

end Keeps

lemma keeps (n : Nat) : Keeps n := by
  induction n with
  | zero =>
    constructor
    all_goals
      intros
      simp only [value, array, arrayItems, inlineTable, inlineEntries, keyValue]
      exact .error _
  | succ n ih =>
    exact ⟨ih.value_succ, ih.array_succ, ih.arrayItems_succ, ih.inlineTable_succ,
      fun room _ frozen s hdone => ih.inlineEntries_succ room frozen s hdone, ih.keyValue_succ⟩

/-! Documents. -/

section Draft

variable {d d' : Draft}

/-- A draft whose tables have each key once. -/
def Draft.Keyed (d : Draft) : Prop := d.entries.Keyed

lemma Draft.Keyed.openTable? (h : d.Keyed) {path : List String}
    (hd : d.openTable? path = some d') : d'.Keyed := by
  unfold Draft.openTable? at hd
  dsimp only at hd
  split at hd
  · cases hd
  · obtain ⟨t, ht, hd⟩ := Option.bind_eq_some_iff.1 hd
    cases hd
    exact Entries.Keyed.alter? (fun _ _ hsame => by cases hsame; exact id) h ht

lemma Draft.Keyed.openArray? (h : d.Keyed) {path : List String}
    (hd : d.openArray? path = some d') : d'.Keyed := by
  unfold Draft.openArray? at hd
  dsimp only at hd
  split at hd
  · cases hd
  · obtain ⟨t, ht, hd⟩ := Option.bind_eq_some_iff.1 hd
    cases hd
    exact Entries.Keyed.alter? (fun _ _ hnew hkeyed => hkeyed.addTable? hnew) h ht

lemma Draft.Keyed.enter? (h : d.Keyed) {key : List String} {v : Value} (hv : v.Keyed)
    (hd : d.enter? key v = some d') : d'.Keyed := by
  unfold Draft.enter? at hd
  dsimp only at hd
  split at hd
  · cases hd
  · obtain ⟨t, ht, hd⟩ := Option.bind_eq_some_iff.1 hd
    cases hd
    exact Entries.Keyed.alter? (fun _ _ hnew hkeyed => hkeyed.addNew? hv hnew) h ht

variable (h : d.Keyed)
include h

lemma gives_header (s : List Char) : Gives Draft.Keyed (header d s) := by
  unfold header
  split
  · exact .bind fun _ _ => .bind fun e he => .bind fun _ _ =>
      .ok (h.openArray? (eq_some_of_orMalformed he)) _
  · exact .bind fun _ _ => .bind fun e he => .bind fun _ _ =>
      .ok (h.openTable? (eq_some_of_orMalformed he)) _

lemma gives_statement (room n : Nat) (s : List Char) : Gives Draft.Keyed
    (statement room n d s) := by
  unfold statement
  split
  · exact gives_header h _
  · split
    · exact .ok h _
    · refine .bind fun x hx => .bind fun e he => ?_
      obtain ⟨⟨path, v⟩, rest⟩ := x
      exact .ok (h.enter? ((keeps n).keyValue _ _ |>.of_ok _ _ hx) (eq_some_of_orMalformed he)) _

lemma keyed_statements {room n : Nat} {s : List Char} (hd : statements room n d s = .ok d') :
    d'.Keyed := by
  induction n generalizing d s with
  | zero => cases hd
  | succ n ih =>
    rw [statements] at hd
    split at hd
    · cases hd
      exact h
    · split at hd
      · exact ih h hd
      · obtain ⟨⟨e, rest⟩, he, hd⟩ := bind_eq_ok_iff.1 hd
        have hkeyed := (gives_statement h room n _).of_ok _ _ he
        obtain ⟨after, -, hd⟩ := bind_eq_ok_iff.1 hd
        split at hd
        · cases hd
          exact hkeyed
        · split at hd
          · exact ih hkeyed hd
          · cases hd

end Draft

/-- In a document each table has each of its keys once. -/
theorem keyed_parse {room : Nat} {text : List Char} {doc : Entries}
    (h : parse room text = .ok doc) :
    doc.Keyed := by
  obtain ⟨d, hd, hdoc⟩ := bind_eq_ok_iff.1 h
  cases hdoc
  exact keyed_statements (d := {}) Entries.keyed_nil hd

end Toml
end SqlMargin
