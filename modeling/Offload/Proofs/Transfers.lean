import Offload.Proofs.Acceptance

/-! What the runtime asks of a call before it serves it, and what it keeps of an image. None
of it depends on the bytes of host memory, and the pixels of an image never change. -/
namespace Offload.Host
open Simulator

section
variable {machine : Machine} {request : Request}

theorem created_of_answered {outcome : Except Refusal Object} {response : Response} {after : Machine}
    (service : machine.store.service request = .creation outcome)
    (performed : machine.perform request = (.ok response, after)) (handled : response.handle ≠ 0) :
    (machine.halted = false ∧ machine.injection.failure? request.entry = none ∧
      machine.injection.nulls.contains request.entry = false) ∧
      ∃ object, outcome = .ok object ∧ response.handle = (machine.store.add object).1 ∧
        after.store = (machine.store.add object).2 := by
  have came := outcome_perform machine request
  rw [performed] at came
  generalize same : Except.ok (ε := Fault) response = answer at came
  cases came with
  | created serving allowed found stored =>
    cases found.symm.trans service
    cases same
    exact ⟨⟨serving, allowed, stored⟩, _, rfl, rfl, rfl⟩
  | answered serving allowed found => cases found.symm.trans service
  | queued serving allowed found => cases found.symm.trans service
  | halted | injected | refused | faulted | exhausted | waited | suppressed | updated | compiled | rejected =>
    cases same
    try exact (handled rfl).elim

/-- A creating call is served unless something keeps it from its object. -/
theorem serves_creation_iff {outcome : Except Refusal Object}
    (service : machine.store.service request = .creation outcome) :
    Serves machine request ↔ (machine.halted = false ∧
      machine.injection.failure? request.entry = none ∧
      machine.injection.nulls.contains request.entry = false) ∧ ∃ object, outcome = .ok object := by
  constructor
  · rintro ⟨response, after, performed, _, handled⟩
    obtain ⟨free, object, stored, _⟩ := created_of_answered service performed handled
    exact ⟨free, object, stored⟩
  · rintro ⟨⟨serving, allowed, stored⟩, object, rfl⟩
    have performed : machine.perform request = (.ok { handle := (machine.store.add object).1 },
        { machine.counted request with store := (machine.store.add object).2 }) := by
      rw [Machine.perform_of_serving serving allowed, Machine.serve_eq]
      have same : (machine.counted request).store = machine.store := rfl
      simp only [same, service, Machine.create]
      exact if_neg (Bool.eq_false_iff.mp stored)
    exact ⟨_, _, performed, rfl, handleOf_ne_zero (machine.store.made + 1)⟩

theorem serves_enqueue_iff {queue : Nat} {command : Command} {waits : HandleList} :
    Serves machine (.enqueue queue command waits true) ↔ machine.halted = false ∧
      machine.injection.failure? (.enqueue command.kind) = none ∧
      (∃ properties, machine.store.queue queue = .ok properties) ∧
      (∃ events, Machine.waitList machine.store waits = .ok events) ∧
      ∃ effect, machine.store.effect command = .ok effect := by
  constructor
  · rintro ⟨response, after, performed, _, object⟩
    have came := outcome_perform machine (.enqueue queue command waits true)
    rw [performed] at came
    generalize same : Except.ok (ε := Fault) response = answer at came
    cases came with
    | queued serving allowed service found listed accepted =>
      cases service
      exact ⟨serving, allowed, ⟨_, found⟩, ⟨_, listed⟩, _, accepted⟩
    | answered _ _ service | created _ _ service => cases service
    | halted | injected | refused | faulted | exhausted | waited | suppressed | updated | compiled | rejected =>
      cases same
      try exact (object rfl).elim
  · rintro ⟨serving, allowed, ⟨properties, found⟩, ⟨events, listed⟩, effect, accepted⟩
    obtain ⟨clock, queuedAt, finished⟩ := finishCommand_eq (machine.store.apply effect) properties events
    have performed : machine.perform (.enqueue queue command waits true) =
        (machine.counted (.enqueue queue command waits true)).enqueue queue command waits true :=
      Machine.perform_of_serving serving allowed
    simp only [Machine.enqueue, Machine.counted, found, listed, accepted, finished, if_true] at performed
    exact ⟨_, _, performed, rfl, handleOf_ne_zero _⟩

end

/-- The rows of a transfer reach as far on the host side as the region says. -/
theorem imageRows_ok {memory : Simulator.Memory} {origin extent : Triple} {rowPitch : Nat} {plan : RowPlan}
    (accepted : imageRows memory origin extent rowPitch = .ok plan) :
    ∃ shape, memory.shape? = some shape ∧ (rowPitch = 0 ∨ extent.x * shape.pixel ≤ rowPitch) ∧
      plan.count = extent.y ∧ plan.length = extent.x * shape.pixel ∧
      plan.hostPitch = if rowPitch = 0 then extent.x * shape.pixel else rowPitch := by
  unfold imageRows at accepted
  split at accepted
  · cases accepted
  · rename_i shape shaped
    split at accepted
    · cases accepted
    · dsimp only at accepted
      split at accepted
      · cases accepted
      · cases accepted
        exact ⟨shape, shaped, by omega, rfl, rfl, rfl⟩

/-- A transfer between host memory and an image moves the rows of a plan. -/
def Moves (store : Store) (image : Nat) (region : ImageRegion) (plan : RowPlan) : Prop :=
  (region.origin.z = 0 ∧ region.extent.z = 1) ∧ ∃ memory, store.memory image = .ok memory ∧
    imageRows memory region.origin region.extent region.rowPitch = .ok plan

section
variable {store : Store} {image slicePitch : Nat} {region : ImageRegion} {data : Block}

theorem imageWindow_ok_iff {origin extent : Triple} {window : Triple × Triple} :
    imageWindow (some origin) (some extent) = .ok window ↔
      (origin.z = 0 ∧ extent.z = 1) ∧ (origin, extent) = window := by
  simp only [imageWindow]
  split <;> simp_all [refuse]

private theorem exists_effect_iff {finish : Simulator.Memory → RowPlan → Except Refusal Effect}
    (finishes : ∀ memory plan, ∃ effect, finish memory plan = .ok effect) :
    (∃ effect, (do
        let (origin, extent) ← imageWindow (some region.origin) (some region.extent)
        let memory ← store.memory image
        let plan ← imageRows memory origin extent region.rowPitch
        finish memory plan) = .ok effect) ↔ ∃ plan, Moves store image region plan := by
  constructor
  · rintro ⟨effect, accepted⟩
    obtain ⟨_, windowed, located⟩ := exists_of_bind_ok accepted
    obtain ⟨flat, rfl⟩ := imageWindow_ok_iff.mp windowed
    obtain ⟨memory, found, planned⟩ := exists_of_bind_ok located
    obtain ⟨plan, rows, _⟩ := exists_of_bind_ok planned
    exact ⟨plan, flat, memory, found, rows⟩
  · rintro ⟨plan, flat, memory, found, rows⟩
    obtain ⟨effect, finished⟩ := finishes memory plan
    have windowed := imageWindow_ok_iff.mpr ⟨flat, rfl⟩
    refine ⟨effect, ?_⟩
    simp only [windowed, found, bind, Except.bind, rows, finished]

theorem effect_writeImage_iff :
    (∃ effect, store.effect (.writeImage image (some region.origin) (some region.extent) region.rowPitch
      slicePitch (some data)) = .ok effect) ↔ ∃ plan, Moves store image region plan :=
  exists_effect_iff fun _ _ => ⟨_, rfl⟩

theorem effect_readImage_iff :
    (∃ effect, store.effect (.readImage image (some region.origin) (some region.extent) region.rowPitch
      slicePitch true) = .ok effect) ↔ ∃ plan, Moves store image region plan :=
  exists_effect_iff fun _ _ => ⟨_, rfl⟩

/-- Whether an image can be made does not depend on the bytes it starts with. -/
theorem newImage_alike {context : Nat} {flags : UInt64} {format : Option RawFormat}
    {layout : Option ImageDescriptor} (data other : Block) :
    (∃ object, store.newImage context flags format layout (some data) = .ok object) ↔
      ∃ object, store.newImage context flags format layout (some other) = .ok object := by
  unfold Store.newImage
  cases format <;> cases layout <;> simp only [exists_bind_ok_iff, Option.isSome_some]
  split <;> simp only [exists_bind_ok_iff, Except.ok.injEq, exists_eq']

end

/-- An image that was made on a runtime which has gone on since. -/
inductive Imaged : Machine → Memory → Prop where
  | made {context : Context} {flags : UInt64} {format : ImageFormat} {layout : ImageDescriptor}
      {backing : Option Memory} {host : Option Block} {scene after : Scene Machine} {image : Memory}
      (reachable : scene.world.Reachable)
      (performed : (context.newImageFrom Machine.driver flags format layout backing host).perform scene =
        (.ok image, after))
      (happenings : List Happening) : Imaged (after.world.run happenings) image

theorem answered_of_obtain {α : Type} {request : Request} {next : Nat → Action Machine α} {value : α}
    {scene after : Scene Machine}
    (performed : (Action.obtain Machine.driver request >>= next).perform scene = (.ok value, after)) :
    ∃ response world, scene.world.perform request = (.ok response, world) ∧ response.handle ≠ 0 ∧
      (next response.handle).perform { scene with world := world } = (.ok value, after) := by
  rw [Action.obtain, bind_assoc, Action.perform_bind, Action.perform_call, Machine.driver] at performed
  rcases answered : scene.world.perform request with ⟨found | response, world⟩
  · rw [answered] at performed
    cases performed
  · rw [answered] at performed
    dsimp only at performed
    rw [Action.perform_bind] at performed
    cases checked : checkHandle response.status response.handle with
    | error error =>
      rw [checked] at performed
      cases performed
    | ok handle =>
      rw [checked] at performed
      obtain ⟨⟨_, handled⟩, rfl⟩ := checkHandle_ok_iff.mp checked
      exact ⟨response, world, rfl, handled, performed⟩

private theorem newImageFrom_ok {context : Context} {flags : UInt64} {format : ImageFormat}
    {layout : ImageDescriptor} {backing : Option Memory} {host : Option Block} {scene after : Scene Machine}
    {image : Memory}
    (performed : (context.newImageFrom Machine.driver flags format layout backing host).perform scene =
      (.ok image, after)) :
    ∃ buffer response, scene.world.perform (.createImage context.owned.handle flags (some format.toRaw)
        (some { layout with buffer := buffer }) host) = (.ok response, after.world) ∧
      response.handle ≠ 0 ∧ image = ⟨⟨response.handle⟩, .image format⟩ := by
  obtain ⟨_, backed⟩ := exists_settles_backing backing
  obtain ⟨buffer, rfl, onward⟩ := backed.of_accepts ⟨_, _, performed⟩
  obtain ⟨used, _⟩ := onward.of_use
  replace performed := (backed.perform_bind scene).symm.trans performed
  rw [used.perform_bind] at performed
  obtain ⟨response, world, answered, handled, adopted⟩ := answered_of_obtain performed
  cases adopted
  exact ⟨buffer, response, answered, handled, rfl⟩

theorem change_of_performed {machine after : Machine} {request : Request} {answer : Except Fault Response}
    (performed : machine.perform request = (answer, after)) : Change machine.store after.store := by
  have change := change_perform machine request
  rw [performed] at change
  exact change

/-- Whatever has happened since, an image that is still there has the pixels of its format. -/
theorem Imaged.pixel_eq {machine : Machine} {image : Memory} (imaged : Imaged machine image) :
    ∃ format, image.format? = some format ∧ ∀ memory, machine.store.memory image.owned.handle = .ok memory →
      ∃ shape, memory.shape? = some shape ∧
        (ImageFormat.ofRaw format.toRaw).pixelSize? = some shape.pixel := by
  obtain ⟨reachable, performed, happenings⟩ := imaged
  obtain ⟨buffer, response, answered, handled, rfl⟩ := newImageFrom_ok performed
  refine ⟨_, rfl, fun memory found => ?_⟩
  obtain ⟨_, object, accepted, named, stored⟩ := created_of_answered rfl answered handled
  obtain ⟨raw, shape, pixel, data, same, _, sized, _, _, _, _, rfl⟩ :=
    Store.newImage_ok accepted
  cases same
  have first := reachable.orderly
  have orderly := first.changed (change_of_performed answered)
  have descends := (Machine.change_run _ happenings).descends_of_find? orderly
    (stored ▸ first.find?_add _) (named ▸ Store.memory_ok_iff.mp found)
  obtain ⟨_, ⟨⟩, kept⟩ := descends.memory
  exact ⟨_, kept, sized⟩

end Offload.Host
