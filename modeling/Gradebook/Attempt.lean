/-! Attempts: computations on a state that may fail, and that keep the state they reached even then. What an
attempt does is a plain function from a state to an outcome and the next state. -/

namespace Gradebook

/-- A computation on states `σ` that gives a value or an error, and the state it reached. -/
def Attempt (σ ε α : Type) : Type := σ → Except ε α × σ

namespace Attempt

variable {σ ε α β : Type}

def run (a : Attempt σ ε α) (s : σ) : Except ε α × σ := a s

/-- The attempt that gives a value and leaves the state alone. -/
protected def pure (x : α) : Attempt σ ε α := fun s => (.ok x, s)

/-- One attempt after another; an error ends both. -/
protected def bind (a : Attempt σ ε α) (f : α → Attempt σ ε β) : Attempt σ ε β := fun s =>
  match a s with
  | (.ok x, next) => f x next
  | (.error e, next) => (.error e, next)

instance : Monad (Attempt σ ε) where
  pure := Attempt.pure
  bind := Attempt.bind

/-- The attempt that fails and leaves the state alone. -/
def fail (e : ε) : Attempt σ ε α := fun s => (.error e, s)

def state : Attempt σ ε σ := fun s => (.ok s, s)

def change (f : σ → σ) : Attempt σ ε Unit := fun s => (.ok (), f s)

/-- An outcome that depends on the state and leaves it alone. -/
def reading (f : σ → Except ε α) : Attempt σ ε α := fun s => (f s, s)

/-- An outcome that is known. -/
def ofExcept (r : Except ε α) : Attempt σ ε α := fun s => (r, s)

/-- The outcome of an attempt, its error included, as a value. -/
def outcome {ε' : Type} (a : Attempt σ ε α) : Attempt σ ε' (Except ε α) := fun s =>
  match a s with
  | (r, next) => (.ok r, next)

/-- The same attempt with its error seen otherwise. -/
def mapError {ε' : Type} (f : ε → ε') (a : Attempt σ ε α) : Attempt σ ε' α := fun s =>
  match a s with
  | (.ok x, next) => (.ok x, next)
  | (.error e, next) => (.error (f e), next)

/-- All or nothing: a failing attempt leaves the state as it was. -/
def atomically (a : Attempt σ ε α) : Attempt σ ε α := fun s =>
  match a s with
  | (.ok x, next) => (.ok x, next)
  | (.error e, _) => (.error e, s)

/-- An attempt on a part of a larger state. -/
def onPart {τ : Type} (get : τ → σ) (put : σ → τ → τ) (a : Attempt σ ε α) : Attempt τ ε α := fun t =>
  match a (get t) with
  | (r, next) => (r, put next t)

/-- One attempt for each element, in order. -/
def forEach (f : β → Attempt σ ε Unit) : List β → Attempt σ ε Unit
  | [] => Attempt.pure ()
  | x :: rest => Attempt.bind (f x) fun _ => forEach f rest

/-- One attempt for each element, in order, and what they give. -/
def forEachGive (f : β → Attempt σ ε α) : List β → Attempt σ ε (List α)
  | [] => Attempt.pure []
  | x :: rest =>
    Attempt.bind (f x) fun y => Attempt.bind (forEachGive f rest) fun ys => Attempt.pure (y :: ys)

@[simp] theorem pure_apply (x : α) (s : σ) : (pure x : Attempt σ ε α) s = (.ok x, s) := rfl

theorem bind_apply (a : Attempt σ ε α) (f : α → Attempt σ ε β) (s : σ) :
    (a >>= f) s = match a s with
      | (.ok x, next) => f x next
      | (.error e, next) => (.error e, next) := rfl

end Attempt

end Gradebook
