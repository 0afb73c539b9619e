import SqlMargin.Proofs.Outcome
import SqlMargin.Value

/-! Values can be compared, so that what is found in a file can be computed. -/
namespace SqlMargin.Value

mutual

/-- Whether two values are the same. -/
def same : Value → Value → Bool
  | .null, .null => true
  | .bool b, .bool b' => b == b'
  | .int n, .int n' => n == n'
  | .float x, .float x' => x == x'
  | .text s, .text s' => s == s'
  | .list items, .list items' => sameItems items items'
  | .table entries, .table entries' => sameEntries entries entries'
  | .moment m, .moment m' => m == m'
  | .words ws, .words ws' => ws == ws'
  | _, _ => false

def sameItems : List Value → List Value → Bool
  | [], [] => true
  | v :: items, v' :: items' => same v v' && sameItems items items'
  | _, _ => false

def sameEntries : List (String × Value) → List (String × Value) → Bool
  | [], [] => true
  | (key, v) :: entries, (key', v') :: entries' =>
    key == key' && same v v' && sameEntries entries entries'
  | _, _ => false

end

mutual

lemma eq_of_same {v v' : Value} (h : same v v' = true) : v = v' := by
  revert h
  fun_cases same v v' with
  | case6 items items' => exact fun h => congrArg Value.list (eq_of_sameItems h)
  | case7 entries entries' => exact fun h => congrArg Value.table (eq_of_sameEntries h)
  | _ => simp

lemma eq_of_sameItems {items items' : List Value} (h : sameItems items items' = true) :
    items = items' := by
  revert h
  fun_cases sameItems items items' with
  | case1 => exact fun _ => rfl
  | case2 v items v' items' =>
    rw [Bool.and_eq_true]
    rintro ⟨hv, hitems⟩
    rw [eq_of_same hv, eq_of_sameItems hitems]
  | case3 => simp

lemma eq_of_sameEntries {entries entries' : List (String × Value)}
    (h : sameEntries entries entries' = true) : entries = entries' := by
  revert h
  fun_cases sameEntries entries entries' with
  | case1 => exact fun _ => rfl
  | case2 key v entries key' v' entries' =>
    rw [Bool.and_eq_true, Bool.and_eq_true, beq_iff_eq]
    rintro ⟨⟨hkey, hv⟩, hentries⟩
    rw [hkey, eq_of_same hv, eq_of_sameEntries hentries]
  | case3 => simp

end

mutual

lemma same_self (v : Value) : same v v = true := by
  cases v with
  | list items => exact sameItems_self items
  | table entries => exact sameEntries_self entries
  | _ => simp [same]

lemma sameItems_self (items : List Value) : sameItems items items = true := by
  cases items with
  | nil => rfl
  | cons v items => rw [sameItems, same_self v, sameItems_self items]; rfl

lemma sameEntries_self (entries : List (String × Value)) : sameEntries entries entries = true := by
  cases entries with
  | nil => rfl
  | cons entry entries =>
    rw [sameEntries, beq_self_eq_true, same_self entry.2, sameEntries_self entries]
    rfl

end

instance : DecidableEq Value := fun v v' =>
  decidable_of_iff (same v v' = true) ⟨eq_of_same, fun h => h ▸ same_self v⟩

end SqlMargin.Value
