import SqlMargin.Proofs.Files.Alike
import SqlMargin.Proofs.Settings.Margins

/-! Settings on disks that are alike. A configuration file may be reached through a link to a file
whose margins have changed; the settings found are the same if they can be used. -/
namespace SqlMargin.Settings

variable {v : View} {d : Disk} (h : v.disk.Alike v.user d) (readable : Bool)

/-- Both disks have settings that differ in margins only, or neither has settings. -/
def Found (o o' : Option Settings) : Prop := o.map flushLeft = o'.map flushLeft

/-- The same for documents. -/
def Held (o o' : Option Toml.Entries) : Prop :=
  o.map Toml.Entries.flushLeft = o'.map Toml.Entries.flushLeft

/-- If nothing is found the search goes on. -/
lemma agree_found {o o' : Option Settings} {next next' : Except SearchFault (Option Settings)}
    (hnext : Agree Found next next') : Found o o' →
    Agree Found (match o with | none => next | some s => pure (some s))
      (match o' with | none => next' | some s => pure (some s)) := by
  intro ho
  cases o with
  | none =>
    obtain rfl := Option.map_eq_none_iff.1 ho.symm
    exact hnext
  | some s =>
    obtain ⟨s', rfl, -⟩ := Option.map_eq_some_iff.1 ho.symm
    exact .ok ho

/-- Bytes that hold the same but for margins hold the same document but for these. -/
lemma agree_document? (room : Nat) {bytes bytes' : List UInt8}
    (hbytes : Agree (fun t t' => SqlMargin.flushLeft t = SqlMargin.flushLeft t')
      (Text.Utf8.decode bytes) (Text.Utf8.decode bytes')) :
    Agree Held (document? room bytes) (document? room bytes') := by
  refine (hbytes.mapError _).bind fun t t' ht => ?_
  have hparse : (Toml.parse room t).map Toml.Entries.flushLeft =
      (Toml.parse room t').map Toml.Entries.flushLeft := by
    rw [← Toml.parse_flushLeft room t, ht, Toml.parse_flushLeft]
  have hagree := Agree.of_map_eq hparse
  generalize Toml.parse room t = entries at hagree
  generalize Toml.parse room t' = entries' at hagree
  cases hagree with
  | error e =>
    cases e with
    | malformed => exact .ok rfl
    | _ => exact .error _
  | ok hentries => exact .ok (congrArg some hentries)

include h

lemma agree_readSource (path : Path) :
    Agree Held (readSource v readable path) (readSource (v.on d) readable path) := by
  unfold readSource
  rcases h.node true path.text with hsame | ⟨loc, f, f', halike, hf, hf'⟩
  · rw [hsame]
    exact Agree.refl (fun o => (rfl : Held o o)) _
  · rw [hf, hf']
    dsimp only
    rw [halike.mayRead]
    change Agree Held _ (if readable && f'.mode.mayRead v.user then
      document? v.nesting.values f'.bytes else .ok none)
    split
    · exact agree_document? _ halike.text
    · exact .ok rfl

lemma agree_inSources (directory : Path) (sources : List Source) :
    Agree Found (inSources v readable directory sources)
      (inSources (v.on d) readable directory sources) := by
  induction sources with
  | nil => exact .ok rfl
  | cons source rest ih =>
    refine (agree_readSource h readable _).bind fun o o' ho => ?_
    cases o with
    | none =>
      obtain rfl := Option.map_eq_none_iff.1 ho.symm
      exact ih
    | some doc =>
      obtain ⟨doc', rfl, hdoc⟩ := Option.map_eq_some_iff.1 ho.symm
      have htables : Agree Found (inTables doc (directory.child source.file) source.tables)
          (inTables doc' (directory.child source.file) source.tables) := by
        apply Agree.of_map_eq
        rw [← inTables_flushLeft, ← inTables_flushLeft, hdoc]
      exact htables.bind fun _ _ => agree_found ih

lemma agree_inDirectories (directories : List Path) :
    Agree Found (inDirectories v readable directories)
      (inDirectories (v.on d) readable directories) := by
  induction directories with
  | nil => exact .ok rfl
  | cons directory rest ih =>
    exact (agree_inSources h readable directory sources).bind fun _ _ => agree_found ih

lemma agree_load (p : Path) :
    Agree Alike (load v readable p) (load (v.on d) readable p) := by
  unfold load
  rw [h.resolve]
  cases (v.on d).resolve false p with
  | error fault => cases fault <;> exact .error _
  | ok start =>
    refine (agree_inDirectories h readable (start :: start.parents)).bind fun o o' ho => ?_
    cases o with
    | none =>
      obtain rfl := Option.map_eq_none_iff.1 ho.symm
      exact .ok (.refl _)
    | some s =>
      obtain ⟨s', rfl, hs⟩ := Option.map_eq_some_iff.1 ho.symm
      exact (Alike.normalize hs.symm).mapError _

/-- Settings that can be used are found on both disks. -/
theorem build_alike {p : Path} {overrides : List (String × Value)} {s : Settings}
    (hbuild : build v readable p overrides = .ok s) :
    build (v.on d) readable p overrides = .ok s := by
  unfold build at hbuild ⊢
  split at hbuild
  · cases hbuild
  · next hpath =>
    simp only [bind_eq_ok_iff] at hbuild
    obtain ⟨found, hload, given, hgiven, n, hn, style, hcheck, ⟨⟩⟩ := hbuild
    obtain ⟨found', hload', halike⟩ := (agree_load h readable p).exists_ok hload
    obtain ⟨given', hgiven', halike'⟩ := ((halike.override overrides).mapError _).exists_ok hgiven
    obtain rfl := halike'.eq_of_check (eq_ok_of_mapError_eq_ok hn) (eq_ok_of_mapError_eq_ok hcheck)
    rw [if_neg hpath]
    simp only [bind_eq_ok_iff]
    exact ⟨found', hload', _, hgiven', s, hn, style, hcheck, rfl⟩

end SqlMargin.Settings
