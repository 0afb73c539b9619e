import Mathlib.Data.String.Basic
import SqlMargin.Indent.Pass
import SqlMargin.Proofs.Settings.Check
import SqlMargin.Proofs.Text.Normal

/-! Normal forms of settings: their keywords as a set of lower-case words without whitespace around
them. A normal form is its own, so it makes no difference how often settings are normalized on their
way to the indenter. -/
namespace SqlMargin

/-! Word sets. -/

section WordSet

variable {w : String} {ws : List String}

lemma insertWord_of_lt (h : ∀ x ∈ ws, w < x) : insertWord w ws = w :: ws := by
  cases ws with
  | nil => rfl
  | cons x ws =>
    have hx := h x List.mem_cons_self
    rw [insertWord, if_neg hx.ne, if_pos hx]

/-- A set stays in increasing order when a word is put into it. -/
lemma pairwise_insertWord (h : ws.Pairwise (· < ·)) : (insertWord w ws).Pairwise (· < ·) := by
  induction ws with
  | nil => exact List.pairwise_singleton _ w
  | cons x ws ih =>
    obtain ⟨hx, hws⟩ := List.pairwise_cons.1 h
    rcases lt_trichotomy w x with hlt | rfl | hgt
    · rw [insertWord_of_lt (List.forall_mem_cons.2 ⟨hlt, fun y hy => hlt.trans (hx y hy)⟩)]
      exact List.pairwise_cons.2 ⟨List.forall_mem_cons.2 ⟨hlt, fun y hy => hlt.trans (hx y hy)⟩, h⟩
    · rw [insertWord, if_pos rfl]
      exact h
    · rw [insertWord, if_neg hgt.ne', if_neg hgt.not_gt]
      refine List.pairwise_cons.2 ⟨fun y hy => ?_, ih hws⟩
      rcases mem_insertWord.1 hy with rfl | hy
      · exact hgt
      · exact hx y hy

lemma pairwise_wordSet (ws : List String) : (wordSet ws).Pairwise (· < ·) := by
  induction ws with
  | nil => exact .nil
  | cons w ws ih => exact pairwise_insertWord ih

lemma wordSet_of_pairwise (h : ws.Pairwise (· < ·)) : wordSet ws = ws := by
  induction ws with
  | nil => rfl
  | cons w ws ih =>
    obtain ⟨hw, hws⟩ := List.pairwise_cons.1 h
    change insertWord w (wordSet ws) = w :: ws
    rw [ih hws, insertWord_of_lt hw]

end WordSet

namespace Settings

/-! Normal forms. -/

lemma normalWord_normalWord (w : String) : normalWord (normalWord w) = normalWord w := by
  unfold normalWord
  rw [String.toList_ofList, Text.lower_trim_idem]

/-- Normal settings stay as they are. -/
theorem normalize_of_normalize {s n : Settings} (h : s.normalize = .ok n) :
    n.normalize = .ok n := by
  obtain ⟨ws, -, rfl⟩ := normalize_eq_ok_iff.1 h
  have hwords : (wordSet (ws.map normalWord)).map normalWord = wordSet (ws.map normalWord) := by
    refine (List.map_congr_left fun w hw => ?_).trans (List.map_id _)
    obtain ⟨w, -, rfl⟩ := List.mem_map.1 (mem_wordSet.1 hw)
    exact normalWord_normalWord w
  apply normalize_of_isNormal
  change (wordSet (List.map normalWord _) == _) = true
  rw [hwords, wordSet_of_pairwise (pairwise_wordSet _)]
  exact beq_self_eq_true _

lemma get_normalize {s n : Settings} (h : s.normalize = .ok n) {f : Field}
    (hf : f ≠ .recognizedKeywords) : n.get f = s.get f := by
  obtain ⟨ws, -, rfl⟩ := normalize_eq_ok_iff.1 h
  change (s.set .recognizedKeywords _).get f = _
  rw [get_set, if_neg hf]

/-- A check goes by the normal form. -/
lemma check_of_normalize {s n : Settings} (h : s.normalize = .ok n) : n.check = s.check := by
  unfold check
  rw [h, normalize_of_normalize h]

/-- Settings without a normal form are refused for that reason, before any value is looked at. -/
lemma check_of_normalize_error {s : Settings} {problem : Problem}
    (h : s.normalize = .error problem) : s.check = .error problem := by
  unfold check
  rw [h]
  rfl

/-! Routes. Settings are normalized wherever they come in, so that text may be indented by settings
that were normalized any number of times. -/

/-- Settings normalized a number of times, for as long as they have a normal form. -/
def normalizeTimes : Nat → Settings → Except Problem Settings
  | 0, s => .ok s
  | k + 1, s => s.normalize >>= normalizeTimes k

/-- From the first time on, nothing changes. -/
lemma normalizeTimes_succ (k : Nat) (s : Settings) : s.normalizeTimes (k + 1) = s.normalize := by
  induction k generalizing s with
  | zero =>
    rw [normalizeTimes]
    cases s.normalize <;> rfl
  | succ k ih =>
    rw [normalizeTimes]
    cases h : s.normalize with
    | error problem => rfl
    | ok n => exact (ih n).trans (normalize_of_normalize h)

lemma indentText_of_normalize [Memory] {s n : Settings} (h : s.normalize = .ok n)
    (text : List Char) : indentText n text = indentText s text := by
  unfold indentText indentBuffer style
  rw [check_of_normalize h]

lemma indentText_of_normalize_error [Memory] {s : Settings} {problem : Problem}
    (h : s.normalize = .error problem) (text : List Char) :
    indentText s text = .error (.settings problem) := by
  unfold indentText indentBuffer style
  rw [check_of_normalize_error h]
  rfl

/-- Normalizing once is enough. A normal form stays as it is, and a check says the same of it as of
the settings it comes from; settings without one are refused by a check for the same reason. However
often settings are normalized before a text is indented by them, the outcome is that of the settings
as they were given. -/
theorem normalize_once [Memory] (s : Settings) :
    (∀ n, s.normalize = .ok n → n.normalize = .ok n ∧ n.check = s.check) ∧
    (∀ problem, s.normalize = .error problem → s.check = .error problem) ∧
    ∀ (k : Nat) (text : List Char),
      ((s.normalizeTimes k).mapError Fault.settings >>= fun n => indentText n text) =
        indentText s text := by
  refine ⟨fun n h => ⟨normalize_of_normalize h, check_of_normalize h⟩,
    fun _ h => check_of_normalize_error h, fun k text => ?_⟩
  cases k with
  | zero => rfl
  | succ k =>
    rw [normalizeTimes_succ]
    cases h : s.normalize with
    | error problem => exact (indentText_of_normalize_error h text).symm
    | ok n => exact indentText_of_normalize h text

section Ample

attribute [local instance] Memory.ample

/-- Words with whitespace beyond ASCII around them, a final sigma and a letter whose lower case is
longer; their settings are refused for another value. A number among the words has no normal
form. -/
theorem normalize_once_sigma :
    let words : Value := .list [.text "\u00a0ΟΔΟΣ ", .text "İF"]
    let s : Settings := { recognizedKeywords := words, indentOffset := .int 0 }
    let n : Settings :=
      { recognizedKeywords := .words ["i\u0307f", "οδος"], indentOffset := .int 0 }
    let mixed : Settings := { recognizedKeywords := .list [.text "select", .int 1] }
    s.normalize = .ok n ∧ n.normalize = .ok n ∧ n.check.toOption.isNone ∧ n.check = s.check ∧
      mixed.normalize = .error .keywordsNotList ∧ mixed.check = .error .keywordsNotList := by
  intro words s n mixed
  have hs : s.normalize = .ok n := by
    refine normalize_eq_ok_iff.2 ⟨["\u00a0ΟΔΟΣ ", "İF"], rfl, ?_⟩
    have hwords : wordSet (["\u00a0ΟΔΟΣ ", "İF"].map normalWord) = ["i\u0307f", "οδος"] := by
      decide +kernel
    rw [hwords]
  obtain ⟨hn, hcheck⟩ := (normalize_once s).1 n hs
  exact ⟨hs, hn, by decide +kernel, hcheck, rfl, (normalize_once mixed).2.1 _ rfl⟩

end Ample

end Settings
end SqlMargin
