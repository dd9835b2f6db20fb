import Offload.Host.Action

/-! Objects that the host owns. An owner gives its object back once, on demand or when it
is discarded; afterwards its handle is null and is never handed to a driver again. -/
namespace Offload.Host

/-- The handle of an owned object, null once it has been given back. -/
structure Owned (kind : ObjectKind) where
  handle : Nat
  deriving DecidableEq, Repr

namespace Owned
variable {σ : Type} {kind : ObjectKind}

/-- Takes ownership of a new object. -/
def adopt (kind : ObjectKind) (handle : Nat) : Action σ (Owned kind) := do
  Action.note (.created kind handle)
  pure ⟨handle⟩

/-- An owner whose object has been given back. -/
def released (kind : ObjectKind) : Owned kind := ⟨0⟩

/-- The handle for a native call; using an object that was given back is a fault. -/
def use (owned : Owned kind) : Action σ Nat :=
  if owned.handle = 0 then Action.fault (.released kind) else pure owned.handle

/-- Gives the object back, unless that has been done. Whatever the driver answers, the
owner is `released` from now on. -/
def release (driver : Driver σ) (owned : Owned kind) : Action σ Unit := do
  if owned.handle = 0 then pure ()
  else
    Action.note (.releasing kind owned.handle)
    let _ ← Action.demand driver (.release kind owned.handle)

/-- Gives the object back when its owner goes away; a failure is noted only. -/
def discard (driver : Driver σ) (owned : Owned kind) : Action σ Unit := do
  match ← Action.outcome (owned.release driver) with
  | .ok _ => pure ()
  | .error error => Action.note (.releaseFailed kind error)

def written (owned : Owned kind) : String := kind.name ++ "(" ++ Text.address owned.handle ++ ")"

end Owned

/-- The handles of several owned objects, in order. -/
def useAll {σ : Type} {kind : ObjectKind} : List (Owned kind) → Action σ (List Nat)
  | [] => pure []
  | owned :: rest => do
    let handle ← owned.use
    let handles ← useAll rest
    pure (handle :: handles)

end Offload.Host
