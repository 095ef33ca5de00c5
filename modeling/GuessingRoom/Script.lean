/-!
# Scripts

A script is a course of atomic steps on a shared state, at the end of which stands a value. Each
step changes the state at once, and what comes next depends on the state that the step found.
Between two steps of a script other scripts may take theirs; run on its own, it takes all of them
in a row.
-/

namespace GuessingRoom

/-- A course of steps on a state of type `σ` that ends with a value of type `α`. -/
inductive Script (σ α : Type) where
  | done (a : α)
  | step (effect : σ → σ) (next : σ → Script σ α)

namespace Script

variable {σ α β : Type}

/-- All steps in a row. -/
def run : Script σ α → σ → α × σ
  | done a, s => (a, s)
  | step effect next, s => (next s).run (effect s)

/-- One step that also gives a value. -/
def act (f : σ → α × σ) : Script σ α := step (fun s => (f s).2) fun s => done (f s).1

protected def bind : Script σ α → (α → Script σ β) → Script σ β
  | done a, k => k a
  | step effect next, k => step effect fun s => (next s).bind k

instance : Monad (Script σ) where
  pure := done
  bind := Script.bind

@[simp] theorem run_act (f : σ → α × σ) (s : σ) : (act f).run s = f s := rfl

@[simp] theorem run_pure (a : α) (s : σ) : (pure a : Script σ α).run s = (a, s) := rfl

theorem run_bind (x : Script σ α) (k : α → Script σ β) (s : σ) :
    (x >>= k).run s = (k (x.run s).1).run (x.run s).2 := by
  show (x.bind k).run s = _
  induction x generalizing s with
  | done a => rfl
  | step effect next ih => exact ih s (effect s)

theorem bind_assoc {γ : Type} (x : Script σ α) (k : α → Script σ β) (l : β → Script σ γ) :
    (x >>= k) >>= l = x >>= fun a => k a >>= l := by
  show (x.bind k).bind l = x.bind fun a => (k a).bind l
  induction x with
  | done a => rfl
  | step effect next ih => exact congrArg (step effect) (funext ih)

end Script

end GuessingRoom
