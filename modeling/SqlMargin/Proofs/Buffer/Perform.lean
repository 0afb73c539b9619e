import SqlMargin.Buffer.Lexer
import SqlMargin.Proofs.Outcome

/-! Performing work on a buffer, step by step, and what work keeps of a buffer whether it succeeds
or fails. -/
namespace SqlMargin.Edit

variable {α β : Type}

@[simp] lemma perform_pure (b : Buffer) (a : α) : perform b (pure a) = (.ok a, b) := rfl

@[simp] lemma perform_throw (b : Buffer) (f : Fault) :
    perform b (throw f : Edit α) = (.error f, b) := rfl

@[simp] lemma perform_lift (b : Buffer) (x : Except Fault α) :
    perform b (liftM x : Edit α) = (x, b) := rfl

@[simp] lemma perform_get (b : Buffer) : perform b get = (.ok b, b) := rfl

@[simp] lemma perform_modify (b : Buffer) (f : Buffer → Buffer) :
    perform b (modify f) = (.ok ⟨⟩, f b) := rfl

@[simp] lemma perform_document (b : Buffer) : perform b document = (.ok b.document, b) := rfl

@[simp] lemma perform_consult (b : Buffer) (look : Document → Document) :
    perform b (consult look) =
      (.ok (look b.document), { b with document := look b.document }) := rfl

lemma perform_bind (b : Buffer) (work : Edit α) (next : α → Edit β) :
    perform b (work >>= next) =
      match perform b work with
      | (.ok a, b') => perform b' (next a)
      | (.error f, b') => (.error f, b') := by
  rcases h : perform b work with ⟨f | a, b'⟩
  · exact run_bind_error h next
  · exact run_bind_ok h next

lemma perform_bind_ok {b b' : Buffer} {work : Edit α} {a : α}
    (h : perform b work = (.ok a, b')) (next : α → Edit β) :
    perform b (work >>= next) = perform b' (next a) := run_bind_ok h next

lemma perform_bind_error {b b' : Buffer} {work : Edit α} {f : Fault}
    (h : perform b work = (.error f, b')) (next : α → Edit β) :
    perform b (work >>= next) = (.error f, b') := run_bind_error h next

lemma perform_tryCatch (b : Buffer) (work : Edit α) (rescue : Fault → Edit α) :
    perform b (tryCatch work rescue) =
      match perform b work with
      | (.ok a, b') => (.ok a, b')
      | (.error f, b') => perform b' (rescue f) := by
  change (ExceptT.tryCatch work rescue).run.run b = _
  rw [ExceptT.tryCatch, ExceptT.run_mk, StateT.run_bind]
  rcases h : perform b work with ⟨f | a, b'⟩
  · rw [show StateT.run work b = _ from h]
    rfl
  · rw [show StateT.run work b = _ from h]
    rfl

/-- What work leaves true of a buffer, be its outcome a result or a fault. -/
def Keeps (holds : Buffer → Prop) (work : Edit α) : Prop :=
  ∀ b, holds b → holds (perform b work).2

namespace Keeps

variable {holds : Buffer → Prop}

lemma pure (a : α) : Keeps holds (Pure.pure a : Edit α) := fun _ h => h

lemma throw (f : Fault) : Keeps holds (MonadExcept.throw f : Edit α) := fun _ h => h

lemma lift (x : Except Fault α) : Keeps holds (liftM x : Edit α) := fun _ h => h

lemma document : Keeps holds Edit.document := fun _ h => h

lemma modify {f : Buffer → Buffer} (h : ∀ b, holds b → holds (f b)) :
    Keeps holds (modifyThe Buffer f : Edit PUnit) := h

lemma bind {work : Edit α} {next : α → Edit β} (hw : Keeps holds work)
    (hn : ∀ a, Keeps holds (next a)) : Keeps holds (work >>= next) := by
  intro b hb
  have h := hw b hb
  rw [perform_bind]
  rcases hp : perform b work with ⟨f | a, b'⟩
  · simpa [hp] using h
  · rw [hp] at h
    exact hn a b' h

lemma map {work : Edit α} {f : α → β} (hw : Keeps holds work) : Keeps holds (f <$> work) :=
  hw.bind fun a => pure (f a)

lemma tryCatch {work : Edit α} {rescue : Fault → Edit α} (hw : Keeps holds work)
    (hr : ∀ f, Keeps holds (rescue f)) : Keeps holds (tryCatch work rescue) := by
  intro b hb
  have h := hw b hb
  rw [perform_tryCatch]
  rcases hp : perform b work with ⟨f | a, b'⟩
  · rw [hp] at h
    exact hr f b' h
  · simpa [hp] using h

/-- Work whose result is not looked at. -/
lemma discard {work : Edit α} (hw : Keeps holds work) : Keeps holds (do let _ ← work) :=
  hw.bind fun _ => pure _

lemma ite {c : Prop} [Decidable c] {work other : Edit α} (hw : Keeps holds work)
    (ho : Keeps holds other) : Keeps holds (if c then work else other) := by
  split
  · exact hw
  · exact ho

end Keeps
end SqlMargin.Edit
