import SqlMargin.Settings.Problem
import SqlMargin.Text.Blank
import SqlMargin.Text.Lowercase

/-! Keyword sets, and the one form every way of writing them is brought to. -/
namespace SqlMargin

/-- Puts a word into a set, which is kept in increasing order. -/
def insertWord (w : String) : List String → List String
  | [] => [w]
  | x :: xs =>
    if w = x then x :: xs
    else if w < x then w :: x :: xs
    else x :: insertWord w xs

/-- The set of the given words. -/
def wordSet (ws : List String) : List String := ws.foldr insertWord []

@[simp] theorem mem_insertWord {v w : String} {ws : List String} :
    v ∈ insertWord w ws ↔ v = w ∨ v ∈ ws := by
  induction ws with
  | nil => simp [insertWord]
  | cons x xs ih =>
    by_cases h : w = x
    · subst h; simp [insertWord]
    · by_cases hlt : w < x
      · simp [insertWord, h, hlt]
      · simp only [insertWord, h, hlt, if_false, List.mem_cons, ih]
        exact or_left_comm

@[simp] theorem mem_wordSet {v : String} {ws : List String} : v ∈ wordSet ws ↔ v ∈ ws := by
  induction ws with
  | nil => simp [wordSet]
  | cons x xs ih => simp [wordSet] at ih ⊢; simp [ih]

namespace Settings

/-- A keyword without the whitespace around it, in lower case. -/
def normalWord (w : String) : String := String.ofList (Text.lower (Text.trim w.toList))

/-- The words of a keyword setting: a list of texts, a word set, or the keys of a table. -/
def keywordEntries? : Value → Option (List String)
  | .words ws => some ws
  | .list items => items.mapM Value.text?
  | .table entries => some (entries.map (·.1))
  | _ => none

/-- The settings with their keywords as a set of lower-case words. -/
def normalize (s : Settings) : Except Problem Settings :=
  match keywordEntries? s.recognizedKeywords with
  | none => .error .keywordsNotList
  | some ws => .ok { s with recognizedKeywords := .words (wordSet (ws.map normalWord)) }

/-- Whether normalizing has nothing to do. -/
def isNormal (s : Settings) : Bool :=
  match s.recognizedKeywords with
  | .words ws => wordSet (ws.map normalWord) == ws
  | _ => false

theorem normalize_of_isNormal {s : Settings} (h : s.isNormal = true) : s.normalize = .ok s := by
  unfold isNormal at h
  split at h
  · next ws e =>
    have h' : wordSet (ws.map normalWord) = ws := by simpa using h
    simp only [normalize, e, keywordEntries?, h']
    rw [← e]
  · exact absurd h (by simp)

end Settings
end SqlMargin
