import Backlog.Http.Exchange
/-!
# Runs

A run reads what the tracker replies, changes a state, and ends in a value
or a fault. What it did to the state stays when it ends in a fault.
-/

namespace Backlog

/-- The tracker at the other end: its reply to a request, which may depend
on everything that was exchanged before. -/
abbrev Remote := List Http.Exchange → Http.Request → Http.Reply

/-- A run over a state of type `σ` with a result of type `α`. -/
def Run (σ α : Type) : Type := Remote → σ → Except Fault α × σ

namespace Run

variable {σ α β : Type}

/-- Ends in a value. -/
protected def pure (a : α) : Run σ α := fun _ s => (.ok a, s)

/-- Goes on with the value that a run ends in. -/
protected def bind (run : Run σ α) (next : α → Run σ β) : Run σ β := fun remote s =>
  match run remote s with
  | (.ok a, s) => next a remote s
  | (.error fault, s) => (.error fault, s)

instance : Monad (Run σ) where
  pure := Run.pure
  bind := Run.bind

/-- Ends in a fault. -/
def fail (fault : Fault) : Run σ α := fun _ s => (.error fault, s)

/-- A computation that does not touch the state. -/
def ofExcept (result : Except Fault α) : Run σ α := fun _ s => (result, s)

instance : MonadLift (Except Fault) (Run σ) := ⟨ofExcept⟩

/-- A run that never ends in a fault: it gives the outcome instead. -/
def attempt (run : Run σ α) : Run σ (Except Fault α) := fun remote s =>
  match run remote s with
  | (result, s) => (.ok result, s)

/-- The state. -/
def state : Run σ σ := fun _ s => (.ok s, s)

/-- Changes the state. -/
def modify (f : σ → σ) : Run σ Unit := fun _ s => (.ok (), f s)

/-! ## One run at a time -/

@[simp] theorem pure_apply (a : α) (remote : Remote) (s : σ) :
    (pure a : Run σ α) remote s = (.ok a, s) := rfl

theorem bind_apply (run : Run σ α) (next : α → Run σ β) (remote : Remote) (s : σ) :
    (run >>= next) remote s =
      match run remote s with
      | (.ok a, s) => next a remote s
      | (.error fault, s) => (.error fault, s) := rfl

@[simp] theorem fail_apply (fault : Fault) (remote : Remote) (s : σ) :
    (fail fault : Run σ α) remote s = (.error fault, s) := rfl

@[simp] theorem ofExcept_apply (result : Except Fault α) (remote : Remote) (s : σ) :
    (ofExcept result : Run σ α) remote s = (result, s) := rfl

@[simp] theorem attempt_apply (run : Run σ α) (remote : Remote) (s : σ) :
    run.attempt remote s = (.ok (run remote s).1, (run remote s).2) := rfl

@[simp] theorem state_apply (remote : Remote) (s : σ) :
    (state : Run σ σ) remote s = (.ok s, s) := rfl

@[simp] theorem modify_apply (f : σ → σ) (remote : Remote) (s : σ) :
    (modify f : Run σ Unit) remote s = (.ok (), f s) := rfl

end Run

end Backlog
