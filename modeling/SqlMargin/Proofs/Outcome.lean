import Mathlib.Tactic.Lemma

/-! Outcomes of work that may fail: what follows for the parts from how the whole ended. -/
namespace SqlMargin

variable {ε α β : Type} {f : α → β} {x : Except ε α}

lemma bind_eq_ok_iff {g : α → Except ε β} {r : β} :
    x >>= g = .ok r ↔ ∃ a, x = .ok a ∧ g a = .ok r := by
  cases x with
  | error e => exact ⟨nofun, nofun⟩
  | ok a => exact ⟨fun h => ⟨a, rfl, h⟩, fun ⟨_, ha, h⟩ => by cases ha; exact h⟩

lemma exists_of_map_eq_ok {b : β} (h : x.map f = .ok b) : ∃ a, x = .ok a ∧ f a = b := by
  cases x with
  | error e => cases h
  | ok a => exact ⟨a, rfl, Except.ok.inj h⟩

lemma eq_error_of_map_eq_error {e : ε} (h : x.map f = .error e) : x = .error e := by
  cases x with
  | error e => exact congrArg Except.error (Except.error.inj h)
  | ok a => cases h

lemma eq_ok_of_mapError_eq_ok {δ : Type} {g : ε → δ} {a : α} (h : x.mapError g = .ok a) :
    x = .ok a := by
  cases x with
  | error e => cases h
  | ok a => exact congrArg Except.ok (Except.ok.inj h)

lemma exists_ok_of_isSome_toOption (h : x.toOption.isSome = true) : ∃ a, x = .ok a := by
  cases x with
  | error e => cases h
  | ok a => exact ⟨a, rfl⟩

lemma bind_eq_error_iff {g : α → Except ε β} {e : ε} :
    x >>= g = .error e ↔ x = .error e ∨ ∃ a, x = .ok a ∧ g a = .error e := by
  cases x with
  | error e' =>
    constructor
    · exact fun h => .inl (congrArg Except.error (Except.error.inj h))
    · rintro (h | ⟨a, ha, -⟩)
      · exact congrArg Except.error (Except.error.inj h)
      · cases ha
  | ok a =>
    constructor
    · exact fun h => .inr ⟨a, rfl, h⟩
    · rintro (h | ⟨a', ha, h⟩)
      · cases h
      · cases ha
        exact h

/-- Steps all succeed, or the first that fails ends them. -/
lemma forM_eq_ok_iff {l : List α} {g : α → Except ε Unit} :
    l.forM g = .ok ⟨⟩ ↔ ∀ a ∈ l, g a = .ok ⟨⟩ := by
  induction l with
  | nil => exact ⟨fun _ => List.forall_mem_nil _, fun _ => rfl⟩
  | cons a l ih =>
    rw [List.forall_mem_cons, ← ih]
    refine (bind_eq_ok_iff (x := g a) (g := fun _ => l.forM g)).trans ?_
    exact ⟨fun ⟨_, ha, hl⟩ => ⟨ha, hl⟩, fun ⟨ha, hl⟩ => ⟨_, ha, hl⟩⟩

lemma forM_congr {l : List α} {g g' : α → Except ε Unit} (h : ∀ a ∈ l, g a = g' a) :
    l.forM g = l.forM g' := by
  induction l with
  | nil => rfl
  | cons a l ih =>
    rw [List.forall_mem_cons] at h
    change (g a >>= fun _ => l.forM g) = _
    rw [h.1, ih h.2]
    rfl

lemma forM_append (l l' : List α) (g : α → Except ε Unit) :
    (l ++ l').forM g = l.forM g >>= fun _ => l'.forM g := by
  induction l with
  | nil => rfl
  | cons a l ih =>
    change (g a >>= fun _ => (l ++ l').forM g) = (g a >>= fun _ => l.forM g) >>= _
    rw [ih]
    cases g a with
    | error e => rfl
    | ok u => rfl

lemma exists_of_forM_eq_error {l : List α} {g : α → Except ε Unit} {e : ε}
    (h : l.forM g = .error e) : ∃ a ∈ l, g a = .error e := by
  induction l with
  | nil => cases h
  | cons a l ih =>
    rcases bind_eq_error_iff.1 h with ha | ⟨_, _, hl⟩
    · exact ⟨a, List.mem_cons_self, ha⟩
    · obtain ⟨b, hb, he⟩ := ih hl
      exact ⟨b, List.mem_cons_of_mem a hb, he⟩

lemma exists_of_mapError_eq_error {δ : Type} {g : ε → δ} {e : δ} (h : x.mapError g = .error e) :
    ∃ e', x = .error e' ∧ g e' = e := by
  cases x with
  | error e' => exact ⟨e', rfl, Except.error.inj h⟩
  | ok a => cases h

instance decidableEqExcept [DecidableEq ε] [DecidableEq α] : DecidableEq (Except ε α)
  | .ok a, .ok b => decidable_of_iff (a = b) (by simp)
  | .error e, .error e' => decidable_of_iff (e = e') (by simp)
  | .ok _, .error _ => .isFalse (by simp)
  | .error _, .ok _ => .isFalse (by simp)

lemma ite_eq_ok_iff {c : Prop} [Decidable c] {a r : α} {e : ε} :
    (if c then .ok a else .error e) = Except.ok r ↔ c ∧ a = r := by
  split
  · next h => simp [h]
  · next h => simp [h]

/-- Two outcomes agree: the same fault, or results that are alike. -/
inductive Agree (alike : α → β → Prop) : Except ε α → Except ε β → Prop
  | error (e : ε) : Agree alike (.error e) (.error e)
  | ok {a : α} {b : β} (h : alike a b) : Agree alike (.ok a) (.ok b)

section Agree

variable {γ δ : Type} {alike : α → β → Prop} {next : γ → δ → Prop} {y : Except ε β}

lemma Agree.refl {alike : α → α → Prop} (h : ∀ a, alike a a) (x : Except ε α) :
    Agree alike x x := by
  cases x with
  | error e => exact .error e
  | ok a => exact .ok (h a)

/-- Outcomes that become the same were the same but for what is lost. -/
lemma Agree.of_map_eq {f : α → γ} {g : β → γ} (h : x.map f = y.map g) :
    Agree (fun a b => f a = g b) x y := by
  cases x with
  | error e =>
    cases y with
    | error e' =>
      cases h
      exact .error e
    | ok b => cases h
  | ok a =>
    cases y with
    | error e => cases h
    | ok b => exact .ok (Except.ok.inj h)

lemma Agree.mapError {ε' : Type} (f : ε → ε') (h : Agree alike x y) :
    Agree alike (x.mapError f) (y.mapError f) := by
  cases h with
  | error e => exact .error (f e)
  | ok hab => exact .ok hab

lemma Agree.bind {f : α → Except ε γ} {g : β → Except ε δ} (h : Agree alike x y)
    (hn : ∀ a b, alike a b → Agree next (f a) (g b)) : Agree next (x >>= f) (y >>= g) := by
  cases h with
  | error e => exact .error e
  | ok hab => exact hn _ _ hab

lemma Agree.map {f : α → γ} {g : β → δ} (h : Agree alike x y)
    (hn : ∀ a b, alike a b → next (f a) (g b)) : Agree next (x.map f) (y.map g) := by
  cases h with
  | error e => exact .error e
  | ok hab => exact .ok (hn _ _ hab)

lemma Agree.imp {alike' : α → β → Prop} (h : Agree alike x y)
    (himp : ∀ a b, alike a b → alike' a b) : Agree alike' x y := by
  cases h with
  | error e => exact .error e
  | ok hab => exact .ok (himp _ _ hab)

lemma Agree.exists_ok (h : Agree alike x y) {a : α} (hx : x = .ok a) :
    ∃ b, y = .ok b ∧ alike a b := by
  cases h with
  | error e => cases hx
  | @ok a' b hab =>
    cases hx
    exact ⟨b, rfl, hab⟩

/-- The first of two results that are alike is what the first outcome is. -/
lemma Agree.eq_ok (h : Agree alike x y) : Agree (fun a b => alike a b ∧ x = .ok a) x y := by
  cases h with
  | error e => exact .error e
  | ok hab => exact .ok ⟨hab, rfl⟩

end Agree

/-! Work that changes a state on the way. -/

section Run

variable {σ : Type} {s s' : σ} {work : ExceptT ε (StateM σ) α}

lemma run_bind (s : σ) (work : ExceptT ε (StateM σ) α) (next : α → ExceptT ε (StateM σ) β) :
    (work >>= next).run.run s =
      match work.run.run s with
      | (.ok a, s') => (next a).run.run s'
      | (.error e, s') => (.error e, s') := by
  change (ExceptT.bindCont next (work s).1).run (work s).2 = _
  rcases h : work s with ⟨_ | _, _⟩
  all_goals simp only [ExceptT.run, StateT.run, h]
  all_goals rfl

lemma run_bind_ok {a : α} (h : work.run.run s = (.ok a, s'))
    (next : α → ExceptT ε (StateM σ) β) :
    (work >>= next).run.run s = (next a).run.run s' := by
  rw [run_bind, h]

lemma run_bind_error {e : ε} (h : work.run.run s = (.error e, s'))
    (next : α → ExceptT ε (StateM σ) β) : (work >>= next).run.run s = (.error e, s') := by
  rw [run_bind, h]

/-- Work comes to a result and a state that are told by `found`, or it fails, which `stop` tells
of. -/
def Leads (s : σ) (work : ExceptT ε (StateM σ) α) (found : α → σ → Prop)
    (stop : ε → σ → Prop) : Prop :=
  match work.run.run s with
  | (.ok a, s') => found a s'
  | (.error e, s') => stop e s'

namespace Leads

variable {found : α → σ → Prop} {foundNext : β → σ → Prop} {stop : ε → σ → Prop}

lemma modify (f : σ → σ) {stop : ε → σ → Prop} :
    Leads s (modifyThe σ f) (fun _ t => t = f s) stop := rfl

lemma bind {next : α → ExceptT ε (StateM σ) β} (hwork : Leads s work found stop)
    (hnext : ∀ a t, found a t → Leads t (next a) foundNext stop) :
    Leads s (work >>= next) foundNext stop := by
  unfold Leads at hwork ⊢
  rw [run_bind]
  rcases h : work.run.run s with ⟨e | a, t⟩
  · rwa [h] at hwork
  · rw [h] at hwork
    exact hnext a t hwork

lemma imp {found' : α → σ → Prop} {stop' : ε → σ → Prop} (hwork : Leads s work found stop)
    (hfound : ∀ a t, found a t → found' a t) (hstop : ∀ e t, stop e t → stop' e t) :
    Leads s work found' stop' := by
  unfold Leads at hwork ⊢
  rcases h : work.run.run s with ⟨e | a, t⟩
  · rw [h] at hwork
    exact hstop e t hwork
  · rw [h] at hwork
    exact hfound a t hwork

lemma of_ok {a : α} (hwork : Leads s work found stop) (h : work.run.run s = (.ok a, s')) :
    found a s' := by
  unfold Leads at hwork
  rwa [h] at hwork

lemma of_error {e : ε} (hwork : Leads s work found stop) (h : work.run.run s = (.error e, s')) :
    stop e s' := by
  unfold Leads at hwork
  rwa [h] at hwork

end Leads
end Run
end SqlMargin
