import Offload.Proofs.Ledger
import Offload.Session.Answer

/-! Actions on a runtime that nothing has been arranged for. Such an action makes at most
one object and hands over its owner, or stops and has made none. -/
namespace Offload.Session
open Host Simulator

variable {α β : Type}

/-- The scene of a runtime below a layer without arrangements. -/
def plain (machine : Machine) (notices : List Notice) : Scene World := ⟨({}, machine), notices⟩

/-- Without arrangements it makes no difference how an object talks to the runtime. -/
theorem Route.driver_plain (route : Route) (request : Request) (machine : Machine) :
    route.driver request ({}, machine) =
      ((machine.perform request).1, ({}, (machine.perform request).2)) := by
  cases route with
  | layered => exact Overlay.driver_of_empty Machine.driver request machine
  | direct => rfl

/-- The owners that notices announce, the last one first. -/
def announced (notices : List Notice) : List (ObjectKind × Nat) :=
  notices.filterMap fun
    | .created kind handle => some (kind, handle)
    | _ => none

/-- What an owner holds, nothing once it has been released. -/
def holding {kind : ObjectKind} (owned : Owned kind) : List (ObjectKind × Nat) :=
  if owned.handle = 0 then [] else [(kind, owned.handle)]

/-- What an action has brought into being, given what is in its value. -/
def born (children : α → List (ObjectKind × Nat)) : Except Stop α → List (ObjectKind × Nat)
  | .ok value => children value
  | .error _ => []

/-- An action makes no object, or one whose owner it announces and hands over. -/
def Bears (action : Action World α) (children : α → List (ObjectKind × Nat)) : Prop :=
  ∀ machine notices, Orderly machine.store → ∃ result after notes,
    action.perform (plain machine notices) = (result, plain after notes) ∧
      Grown (born children result) machine after ∧ (born children result).length ≤ 1 ∧
      announced notes = born children result ++ announced notices

/-- An action that makes no object. -/
abbrev Quiet (action : Action World α) : Prop := Bears action fun _ => []

theorem Quiet.born_eq (result : Except Stop α) : born (fun _ => []) result = [] := by
  cases result <;> rfl

theorem ne_zero_of_checkHandle {status : Int} {handle accepted : Nat}
    (checked : checkHandle status handle = .ok accepted) : accepted ≠ 0 := by
  unfold checkHandle at checked
  split at checked
  · cases checked
  · split at checked
    · cases checked
    · cases checked
      assumption

namespace Bears
variable {action : Action World α} {children : α → List (ObjectKind × Nat)}

/-- An action that leaves the scene as it is. -/
theorem of_still {result : Except Stop α} (barren : born children result = [])
    (still : ∀ scene, action.perform scene = (result, scene)) : Bears action children := by
  intro machine notices _
  refine ⟨result, machine, notices, still _, ?_, ?_, ?_⟩ <;> rw [barren]
  · exact .unchanged machine
  · exact Nat.zero_le 1
  · rfl

theorem pure {value : α} (barren : children value = []) : Bears (Pure.pure value) children :=
  of_still (show born children (.ok value) = [] from barren) fun _ => rfl

theorem fail (error : CallError) : Bears (Action.fail error) children := of_still rfl fun _ => rfl

theorem fault (found : Fault) : Bears (Action.fault found) children := of_still rfl fun _ => rfl

theorem refuse (error : NativeError) : Bears (Action.refuse error) children := fail (.native error)

theorem use {kind : ObjectKind} (owned : Owned kind) : Quiet owned.use := by
  unfold Owned.use
  split
  · exact fault _
  · exact pure rfl

theorem ofFaulty (result : Except Fault α) : Quiet (Action.ofFaulty result) := by
  cases result with
  | ok value => exact pure rfl
  | error found => exact fault found

/-- A notice that announces no owner. -/
theorem note {notice : Notice} (silent : announced [notice] = []) : Quiet (Action.note notice) := by
  intro machine notices _
  refine ⟨.ok (), machine, notice :: notices, rfl, .unchanged machine, Nat.zero_le 1, ?_⟩
  show announced ([notice] ++ notices) = announced notices
  rw [announced, List.filterMap_append]
  exact congrArg (· ++ announced notices) silent

theorem bind {next : α → Action World β} {children : β → List (ObjectKind × Nat)}
    (first : Quiet action) (rest : ∀ value, Bears (next value) children) :
    Bears (action >>= next) children := by
  intro machine notices orderly
  obtain ⟨result, middle, notes, performed, calm, _, silent⟩ := first machine notices orderly
  rw [Quiet.born_eq] at calm silent
  rw [Action.perform_bind, performed]
  cases result with
  | error stop => exact ⟨.error stop, middle, notes, rfl, calm, Nat.zero_le 1, silent⟩
  | ok value =>
    obtain ⟨last, after, more, finished, grown, single, told⟩ :=
      rest value middle notes (orderly.changed calm.change)
    exact ⟨last, after, more, finished, .late calm grown, single, by rw [told, silent]; rfl⟩

/-- What comes after a birth only looks at the child. -/
theorem and_then {next : α → Action World β} {others : β → List (ObjectKind × Nat)}
    (first : Bears action children)
    (last : ∀ value, ∃ result, (∀ scene, (next value).perform scene = (result, scene)) ∧
      born others result = children value) : Bears (action >>= next) others := by
  intro machine notices orderly
  obtain ⟨result, after, notes, performed, grown, single, told⟩ := first machine notices orderly
  rw [Action.perform_bind, performed]
  cases result with
  | error stop => exact ⟨.error stop, after, notes, rfl, grown, single, told⟩
  | ok value =>
    obtain ⟨final, still, same⟩ := last value
    exact ⟨final, after, notes, still _, same ▸ grown, same ▸ single, same ▸ told⟩

theorem certain (first : Bears action children) : Bears action.certain children := by
  intro machine notices orderly
  obtain ⟨result, after, notes, performed, grown, single, told⟩ := first machine notices orderly
  rw [Action.perform_certain, performed]
  rcases result with (error | found) | value
  · exact ⟨.error (.faulted (.unexpected error)), after, notes, rfl, grown, single, told⟩
  · exact ⟨.error (.faulted found), after, notes, rfl, grown, single, told⟩
  · exact ⟨.ok value, after, notes, rfl, grown, single, told⟩

/-- A native call that neither makes nor releases an object. -/
theorem call (route : Route) {request : Request} (makes : made? request = none)
    (keeps : released? request = none) : Quiet (Action.call route.driver request) := by
  intro machine notices orderly
  have grown := (outcome_perform machine request).calm orderly makes keeps
  rw [Action.perform_call]
  simp only [plain, route.driver_plain]
  cases (machine.perform request).1 with
  | ok response => exact ⟨.ok response, _, notices, rfl, grown, Nat.zero_le 1, rfl⟩
  | error found => exact ⟨.error (.faulted found), _, notices, rfl, grown, Nat.zero_le 1, rfl⟩

/-- A native call that makes an object, followed by what takes over its answer. -/
theorem making (route : Route) {request : Request} {kind : ObjectKind}
    {children : β → List (ObjectKind × Nat)} {next : Response → Action World β} (makes : made? request = some kind)
    (wanted : ∀ queue command waits, request ≠ .enqueue queue command waits false)
    (adopts : ∀ response scene, ∃ result notes,
      (next response).perform scene = (result, ⟨scene.world, notes⟩) ∧
      born children result = offspring kind (.ok response) ∧
      announced notes = offspring kind (.ok response) ++ announced scene.notices) :
    Bears (Action.call route.driver request >>= next) children := by
  intro machine notices orderly
  have grown := (outcome_perform machine request).grown orderly makes wanted
  rw [Action.perform_bind, Action.perform_call]
  simp only [plain, route.driver_plain]
  cases answer : (machine.perform request).1 with
  | error found =>
    rw [answer] at grown
    exact ⟨.error (.faulted found), _, notices, rfl, grown, Nat.zero_le 1, rfl⟩
  | ok response =>
    rw [answer] at grown
    obtain ⟨result, notes, performed, same, told⟩ :=
      adopts response ⟨({}, (machine.perform request).2), notices⟩
    refine ⟨result, _, notes, performed, same ▸ grown, ?_, same ▸ told⟩
    rw [same]
    simp only [offspring]
    split <;> simp

/-- A native call that has to come with an object, followed by taking it over. -/
theorem obtain (route : Route) {request : Request} {kind : ObjectKind}
    {children : β → List (ObjectKind × Nat)} {next : Nat → Action World β} (makes : made? request = some kind)
    (wanted : ∀ queue command waits, request ≠ .enqueue queue command waits false)
    (adopts : ∀ handle, handle ≠ 0 → ∀ scene, ∃ value notes,
      (next handle).perform scene = (.ok value, ⟨scene.world, notes⟩) ∧
      children value = [(kind, handle)] ∧
      announced notes = (kind, handle) :: announced scene.notices) :
    Bears (Action.obtain route.driver request >>= next) children := by
  rw [Action.obtain, bind_assoc]
  refine making route makes wanted fun response scene => ?_
  rw [Action.perform_bind]
  simp only [offspring]
  cases checked : checkHandle response.status response.handle with
  | error error => exact ⟨.error (.failed error), scene.notices, rfl, rfl, rfl⟩
  | ok handle =>
    have handled : handle ≠ 0 := ne_zero_of_checkHandle checked
    obtain ⟨value, notes, performed, same, told⟩ := adopts handle handled scene
    exact ⟨.ok value, notes, performed, same, told⟩

end Bears
end Offload.Session
