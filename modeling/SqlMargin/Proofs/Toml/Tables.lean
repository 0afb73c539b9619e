import SqlMargin.Proofs.Text.Unindent
import SqlMargin.Toml.Tables

/-! Tables under construction do not hang on the texts in them: putting all texts flush left before
a table is opened or an entry is made leads to the same as doing it afterwards. -/
namespace SqlMargin

mutual

/-- A value with all texts in it flush left. -/
def Value.flushLeft : Value → Value
  | .text s => .text (String.ofList (SqlMargin.flushLeft s.toList))
  | .list items => .list (Value.flushItems items)
  | .table entries => .table (Value.flushEntries entries)
  | v => v

def Value.flushItems : List Value → List Value
  | [] => []
  | v :: vs => v.flushLeft :: Value.flushItems vs

def Value.flushEntry : String × Value → String × Value
  | (k, v) => (k, v.flushLeft)

def Value.flushEntries : List (String × Value) → List (String × Value)
  | [] => []
  | e :: es => Value.flushEntry e :: Value.flushEntries es

end

/-- Entries with all texts in them flush left. -/
def Toml.Entries.flushLeft (t : Toml.Entries) : Toml.Entries := t.map Value.flushEntry

namespace Value

@[simp] lemma flushEntry_mk (k : String) (v : Value) : flushEntry (k, v) = (k, v.flushLeft) := rfl

@[simp] lemma flushLeft_list (items : List Value) :
    (Value.list items).flushLeft = .list (items.map flushLeft) := by
  have hitems : flushItems items = items.map flushLeft := by
    induction items with
    | nil => rfl
    | cons v vs ih => rw [flushItems, ih, List.map_cons]
  rw [flushLeft, hitems]

@[simp] lemma flushLeft_table (t : Toml.Entries) :
    (Value.table t).flushLeft = .table t.flushLeft := by
  have hentries : flushEntries t = t.map flushEntry := by
    induction t with
    | nil => rfl
    | cons e es ih => rw [flushEntries, ih, List.map_cons]
  rw [flushLeft, hentries]
  rfl

lemma isContainer_flushLeft (v : Value) : Toml.isContainer v.flushLeft = Toml.isContainer v := by
  cases v with
  | list items => rw [flushLeft_list]; rfl
  | table entries => rw [flushLeft_table]; rfl
  | _ => rfl

end Value

namespace Toml
open Value (flushEntry)

section Entries

variable (k : String) (v : Value) (t : Entries)

@[simp] lemma lookup_flushLeft : t.flushLeft.lookup k = (t.lookup k).map Value.flushLeft := by
  induction t with
  | nil => rfl
  | cons e t ih =>
    obtain ⟨j, w⟩ := e
    change ((j, w.flushLeft) :: Entries.flushLeft t).lookup k = _
    rw [List.lookup_cons, List.lookup_cons]
    cases k == j with
    | true => rfl
    | false => exact ih

@[simp] lemma replaceEntry_flushLeft :
    replaceEntry k v.flushLeft t.flushLeft = (replaceEntry k v t).flushLeft := by
  unfold replaceEntry Entries.flushLeft
  rw [List.map_map, List.map_map]
  apply List.map_congr_left
  rintro ⟨j, w⟩ _
  change (if j = k then (k, v.flushLeft) else (j, w.flushLeft)) =
    flushEntry (if j = k then (k, v) else (j, w))
  split <;> rfl

@[simp] lemma concat_flushLeft :
    Entries.flushLeft (t ++ [(k, v)]) = t.flushLeft ++ [(k, v.flushLeft)] := List.map_append

lemma addNew?_flushLeft :
    addNew? k v.flushLeft t.flushLeft = (addNew? k v t).map Entries.flushLeft := by
  have hany : t.flushLeft.any (·.1 == k) = t.any (·.1 == k) := by
    rw [Entries.flushLeft, List.any_map]
    congr 1
    funext ⟨j, w⟩
    rfl
  unfold addNew?
  rw [hany]
  split
  · rfl
  · rw [Option.map_some, concat_flushLeft]

lemma addTable?_flushLeft : addTable? k t.flushLeft = (addTable? k t).map Entries.flushLeft := by
  unfold addTable?
  rw [lookup_flushLeft]
  cases t.lookup k with
  | none => simp [Entries.flushLeft]
  | some w =>
    cases w with
    | list items =>
      have hitems := replaceEntry_flushLeft k (.list (items ++ [.table []])) t
      simpa [Entries.flushLeft] using hitems
    | table entries => simp
    | _ => rfl

end Entries

/-- A change of a table that does not hang on the texts in it makes one of the whole that does
not. -/
lemma alter?_flushLeft (arrays : Bool) {f g : Entries → Option Entries}
    (hf : ∀ t, g t.flushLeft = (f t).map Entries.flushLeft) (path : List String) (t : Entries) :
    alter? arrays g path t.flushLeft = (alter? arrays f path t).map Entries.flushLeft := by
  induction path generalizing t with
  | nil => exact hf t
  | cons k path ih =>
    rw [alter?, alter?, lookup_flushLeft]
    cases t.lookup k with
    | none =>
      have hnew : alter? arrays g path [] = (alter? arrays f path []).map Entries.flushLeft := ih []
      rw [Option.map_none]
      dsimp only
      rw [hnew]
      cases alter? arrays f path [] with
      | none => rfl
      | some sub => simp
    | some w =>
      rw [Option.map_some]
      cases w with
      | table sub =>
        rw [Value.flushLeft_table]
        dsimp only
        rw [ih sub]
        cases alter? arrays f path sub with
        | none => rfl
        | some sub => simpa using replaceEntry_flushLeft k (.table sub) t
      | list items =>
        rw [Value.flushLeft_list]
        dsimp only
        rw [List.getLast?_map]
        cases arrays with
        | false => rfl
        | true =>
          cases items.getLast? with
          | none => rfl
          | some last =>
            rw [Option.map_some]
            cases last with
            | table sub =>
              rw [Value.flushLeft_table]
              dsimp only
              rw [ih sub]
              cases alter? true f path sub with
              | none => rfl
              | some sub =>
                have hitems := replaceEntry_flushLeft k (.list (items.dropLast ++ [.table sub])) t
                simpa [List.map_dropLast] using hitems
            | list => rw [Value.flushLeft_list]; rfl
            | _ => rfl
      | _ => rfl

/-! Drafts. -/

def Draft.flushLeft (d : Draft) : Draft := { d with entries := d.entries.flushLeft }

section Draft

variable (d : Draft) (path : List String)

/-- A draft is made from the changed table, unless that is refused or fails. -/
lemma draft_flushLeft (refused : Bool) {f g : Entries → Option Entries}
    (hf : ∀ t, g t.flushLeft = (f t).map Entries.flushLeft) (t : Entries)
    {make make' : Entries → Draft} (hmake : ∀ t, make' t.flushLeft = (make t).flushLeft) :
    (if refused then none else (alter? true g path t.flushLeft).bind (some <| make' ·)) =
      (if refused then none else (alter? true f path t).bind (some <| make ·)).map
        Draft.flushLeft := by
  cases refused with
  | true => rfl
  | false =>
    rw [alter?_flushLeft true hf]
    cases alter? true f path t with
    | none => rfl
    | some changed => exact congrArg some (hmake changed)

lemma openTable?_flushLeft :
    d.flushLeft.openTable? path = (d.openTable? path).map Draft.flushLeft :=
  draft_flushLeft path _ (fun _ => rfl) d.entries fun _ => rfl

lemma openArray?_flushLeft :
    d.flushLeft.openArray? path = (d.openArray? path).map Draft.flushLeft :=
  draft_flushLeft path.dropLast _ (addTable?_flushLeft (path.getLast?.getD "")) d.entries fun _ => rfl

lemma enter?_flushLeft (v : Value) :
    d.flushLeft.enter? path v.flushLeft = (d.enter? path v).map Draft.flushLeft := by
  unfold Draft.enter?
  rw [v.isContainer_flushLeft]
  exact draft_flushLeft (d.header ++ path.dropLast) _ (addNew?_flushLeft (path.getLast?.getD "") v)
    d.entries fun _ => rfl

end Draft
end Toml
end SqlMargin
