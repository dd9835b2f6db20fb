import Offload.Driver.Request
import Offload.Host.Notice

/-! Host-side operations. An action works on the state of a driver, leaves notices, and
either returns or stops with a reported error or a fault; what it did before it stopped
remains done. -/
namespace Offload.Host

/-- Why an action did not return. -/
inductive Stop where
  | failed (error : CallError)
  | faulted (fault : Fault)
  deriving DecidableEq, Repr

/-- The state of a driver, and the notices so far, newest first. -/
structure Scene (σ : Type) where
  world : σ
  notices : List Notice := []
  deriving DecidableEq, Repr

abbrev Action (σ α : Type) := ExceptT Stop (StateM (Scene σ)) α

namespace Action
variable {σ α : Type}

/-- Carries out an action. -/
def perform (action : Action σ α) (scene : Scene σ) : Except Stop α × Scene σ := action scene

def fail (error : CallError) : Action σ α := throw (.failed error)

/-- Stops with a listed error. -/
def refuse (error : NativeError) : Action σ α := fail (.native error)

def fault (fault : Fault) : Action σ α := throw (.faulted fault)

/-- Takes over a result. -/
def ofExcept : Except CallError α → Action σ α
  | .ok value => pure value
  | .error error => fail error

def ofFaulty : Except Fault α → Action σ α
  | .ok value => pure value
  | .error found => fault found

def note (notice : Notice) : Action σ Unit :=
  modify fun scene => { scene with notices := notice :: scene.notices }

/-- Asks a driver that already knows its request. -/
def invoke (request : σ → Except Fault Response × σ) : Action σ Response := fun scene =>
  match request scene.world with
  | (.ok response, world) => (.ok response, { scene with world := world })
  | (.error found, world) => (.error (.faulted found), { scene with world := world })

/-- Makes one native call, whatever its status is. -/
def call (driver : Driver σ) (request : Request) : Action σ Response := invoke (driver request)

/-- Makes one native call that has to succeed. -/
def demand (driver : Driver σ) (request : Request) : Action σ Response := do
  let response ← call driver request
  ofExcept (check response.status)
  pure response

/-- Makes one native call that has to come with an object. -/
def obtain (driver : Driver σ) (request : Request) : Action σ Nat := do
  let response ← call driver request
  ofExcept (checkHandle response.status response.handle)

/-- Turns a reported error into a value; a fault still stops. -/
def outcome (action : Action σ α) : Action σ (Except CallError α) :=
  tryCatch (Except.ok <$> action) fun
    | .failed error => pure (.error error)
    | .faulted found => fault found

/-- An action that is counted on: a reported error is a fault then. -/
def certain (action : Action σ α) : Action σ α :=
  tryCatch action fun
    | .failed error => fault (.unexpected error)
    | .faulted found => fault found

@[simp] theorem perform_pure (value : α) (scene : Scene σ) :
    (pure value : Action σ α).perform scene = (.ok value, scene) := rfl

@[simp] theorem perform_fail (error : CallError) (scene : Scene σ) :
    (fail error : Action σ α).perform scene = (.error (.failed error), scene) := rfl

@[simp] theorem perform_fault (found : Fault) (scene : Scene σ) :
    (fault found : Action σ α).perform scene = (.error (.faulted found), scene) := rfl

@[simp] theorem perform_ofFaulty_ok (value : α) (scene : Scene σ) :
    (ofFaulty (.ok value) : Action σ α).perform scene = (.ok value, scene) := rfl

@[simp] theorem perform_ofFaulty_error (found : Fault) (scene : Scene σ) :
    (ofFaulty (.error found) : Action σ α).perform scene = (.error (.faulted found), scene) := rfl

@[simp] theorem perform_note (notice : Notice) (scene : Scene σ) :
    (note notice).perform scene = (.ok (), { scene with notices := notice :: scene.notices }) := rfl

/-- An action that stops keeps the actions behind it from starting. -/
theorem perform_bind {β : Type} (action : Action σ α) (next : α → Action σ β) (scene : Scene σ) :
    (action >>= next).perform scene =
      match action.perform scene with
      | (.ok value, after) => (next value).perform after
      | (.error stop, after) => (.error stop, after) := by
  show (ExceptT.bind action next) scene = _
  simp only [ExceptT.bind, ExceptT.mk, ExceptT.bindCont, bind, StateT.bind, perform]
  rcases action scene with ⟨_ | _, _⟩ <;> rfl

/-- Counting on an action changes nothing but how an error is reported. -/
theorem perform_certain (action : Action σ α) (scene : Scene σ) :
    action.certain.perform scene =
      match action.perform scene with
      | (.error (.failed error), after) => (.error (.faulted (.unexpected error)), after)
      | other => other := by
  show (ExceptT.tryCatch action _) scene = _
  simp only [ExceptT.tryCatch, ExceptT.mk, bind, StateT.bind, perform]
  rcases action scene with ⟨(_ | _) | _, _⟩ <;> rfl

/-- A handler takes over in the scene in which the action stopped. -/
theorem perform_tryCatch (action : Action σ α) (handle : Stop → Action σ α) (scene : Scene σ) :
    (tryCatch action handle).perform scene =
      match action.perform scene with
      | (.error stop, after) => (handle stop).perform after
      | other => other := by
  show (ExceptT.tryCatch action handle) scene = _
  simp only [ExceptT.tryCatch, ExceptT.mk, bind, StateT.bind, perform]
  rcases action scene with ⟨_ | _, _⟩ <;> rfl

/-- Taking an error as a value leaves only faults to stop at. -/
theorem perform_outcome (action : Action σ α) (scene : Scene σ) :
    action.outcome.perform scene =
      match action.perform scene with
      | (.ok value, after) => (.ok (.ok value), after)
      | (.error (.failed error), after) => (.ok (.error error), after)
      | (.error (.faulted found), after) => (.error (.faulted found), after) := by
  have mapped : (Except.ok <$> action : Action σ (Except CallError α)) =
      action >>= fun value => pure (.ok value) := rfl
  rw [outcome, perform_tryCatch, mapped, perform_bind]
  rcases action.perform scene with ⟨(error | found) | value, after⟩ <;> rfl

/-- What comes finally is done also behind an action that stopped. -/
theorem perform_finally {β : Type} (action : Action σ α) (last : Action σ β) (scene : Scene σ) :
    (tryFinally action last).perform scene =
      match action.perform scene with
      | (result, middle) =>
        match last.perform middle with
        | (.ok _, after) => (result, after)
        | (.error stop, after) => (.error stop, after) := by
  show (ExceptT.map Prod.fst (tryFinally' action fun _ => last)) scene = _
  simp only [ExceptT.map, ExceptT.mk, tryFinally', bind, StateT.bind, pure, perform]
  rcases action scene with ⟨_ | _, middle⟩
  · dsimp only
    rcases last middle with ⟨_ | _, _⟩ <;> rfl
  · dsimp only
    rcases last middle with ⟨_ | _, _⟩ <;> rfl

/-- A call changes the state of the driver only, and leaves no notice. -/
theorem perform_call (driver : Driver σ) (request : Request) (scene : Scene σ) :
    (call driver request).perform scene =
      match driver request scene.world with
      | (.ok response, world) => (.ok response, { scene with world := world })
      | (.error found, world) => (.error (.faulted found), { scene with world := world }) := rfl

end Action
end Offload.Host
