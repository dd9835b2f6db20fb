import Offload.Proofs.Submissions

/-! What becomes of a call for a new memory object that nothing stands in the way of: it comes back
with the object, or with the error that the store has for it. -/
namespace Offload.Simulator

/-- A runtime after it has stored a new object. -/
structure Made (before after : Machine) (object : Object) (handle : Nat) : Prop where
  reachable : after.Reachable
  serving : after.halted = false
  injection : after.injection = before.injection
  stored : after.store.objects.find? handle = some object
  extended : Extends before.store after.store

/-- Flags that name no use of host memory, and at most one access mode on either side. -/
structure PlainFlags (flags : UInt64) : Prop where
  unused : flags &&& (useHostPointer ||| copyHostPointer) = 0
  access : countSet flags [0x1, 0x2, 0x4] ≤ 1
  hostAccess : countSet flags [0x80, 0x100, 0x200] ≤ 1

theorem or_and_distrib (first second mask : UInt64) :
    (first ||| second) &&& mask = (first &&& mask) ||| (second &&& mask) := by
  apply UInt64.toBitVec_inj.mp
  rw [UInt64.toBitVec_and, UInt64.toBitVec_or, UInt64.toBitVec_or, UInt64.toBitVec_and,
    UInt64.toBitVec_and]
  exact BitVec.and_or_distrib_right

/-- To copy from host memory is no access mode. -/
theorem countSet_copying {flags : UInt64} {choices : List UInt64}
    (other : choices.all (copyHostPointer &&& · == 0) = true) :
    countSet (flags ||| copyHostPointer) choices = countSet flags choices := by
  unfold countSet
  apply List.countP_congr
  intro choice member
  have apart : copyHostPointer &&& choice = 0 := eq_of_beq (List.all_eq_true.mp other choice member)
  rw [or_and_distrib, apart, UInt64.or_zero]

/-- Flags pass their check with one access mode on either side and one use of host memory. -/
theorem checkMemoryFlags_of_use {flags use : UInt64} {given : Bool}
    (access : countSet flags [0x1, 0x2, 0x4] ≤ 1)
    (hostAccess : countSet flags [0x80, 0x100, 0x200] ≤ 1)
    (used : flags &&& (useHostPointer ||| copyHostPointer) = use)
    (single : use ≠ useHostPointer ||| copyHostPointer) (named : given = (use != 0)) :
    checkMemoryFlags flags given = .ok () := by
  have fine : ¬ (countSet flags [0x1, 0x2, 0x4] > 1 ∨ countSet flags [0x80, 0x100, 0x200] > 1 ∨
      use = useHostPointer ||| copyHostPointer) := by
    rintro (many | many | both)
    · omega
    · omega
    · exact single both
  rw [checkMemoryFlags, used, if_neg fine, named]
  exact if_pos rfl

private theorem and_or_absorb (flags mask : UInt64) : (flags &&& mask) ||| mask = mask := by
  apply UInt64.toBitVec_inj.mp
  rw [UInt64.toBitVec_or, UInt64.toBitVec_and]
  ext index inside
  rw [BitVec.getElem_or, BitVec.getElem_and]
  cases flags.toBitVec[index] <;> cases mask.toBitVec[index] <;> rfl

/-- Flags under which host memory can be lent for a call. They may name that it is copied. -/
structure LendableFlags (flags : UInt64) : Prop where
  unused : flags &&& useHostPointer = 0
  access : countSet flags [0x1, 0x2, 0x4] ≤ 1
  hostAccess : countSet flags [0x80, 0x100, 0x200] ≤ 1

namespace LendableFlags
variable {flags : UInt64}

theorem not_contains (lendable : LendableFlags flags) : containsBits flags useHostPointer = false := by
  rw [containsBits, lendable.unused]
  decide

theorem check_copying (lendable : LendableFlags flags) :
    checkMemoryFlags (flags ||| copyHostPointer) true = .ok () := by
  have access := lendable.access
  have hostAccess := lendable.hostAccess
  rw [← countSet_copying (by decide)] at access hostAccess
  apply checkMemoryFlags_of_use access hostAccess
  · show _ = copyHostPointer
    have copies : copyHostPointer &&& (useHostPointer ||| copyHostPointer) = copyHostPointer := by decide
    rw [or_and_distrib, copies, UInt64.and_comm flags, or_and_distrib, UInt64.and_comm useHostPointer,
      lendable.unused, UInt64.zero_or, UInt64.and_comm copyHostPointer, and_or_absorb]
  · decide
  · rfl

end LendableFlags

namespace PlainFlags
variable {flags : UInt64}

theorem lendable (plain : PlainFlags flags) : LendableFlags flags := by
  refine ⟨?_, plain.access, plain.hostAccess⟩
  have within : useHostPointer = (useHostPointer ||| copyHostPointer) &&& useHostPointer := by decide
  rw [within, ← UInt64.and_assoc, plain.unused, UInt64.zero_and]

theorem check (plain : PlainFlags flags) : checkMemoryFlags flags false = .ok () := by
  apply checkMemoryFlags_of_use plain.access plain.hostAccess plain.unused
  · decide
  · rfl

end PlainFlags
end Offload.Simulator

namespace Offload.Host
open Simulator

/-- The runtime serves its calls, the context is live, and no failure is injected into the making of
memory objects. -/
structure Provides (machine : Machine) (context : Context) : Prop where
  serving : machine.halted = false
  allowed : ∀ entry ∈ [EntryPoint.createBuffer, .createImage],
    machine.injection.failure? entry = none ∧ machine.injection.nulls.contains entry = false
  live : ∃ devices, machine.store.context context.owned.handle = .ok devices

theorem Ready.made {before after : Machine} {object : Object} {handle : Nat} {queue : Queue}
    {waits : List Event} (ready : Ready before queue waits) (made : Made before after object handle) :
    Ready after queue waits :=
  ready.kept made.serving made.injection fun id stored _ found => made.extended id stored found

namespace Provides
variable {scene : Scene Machine} {context : Context} {request : Request}

theorem settles_context (provides : Provides scene.world context) (reachable : scene.world.Reachable) :
    Settles context.owned.use (.ok context.owned.handle) := by
  obtain ⟨devices, found⟩ := provides.live
  exact settles_use (reachable.ne_zero (Store.context_ok_iff.mp found))

/-- A creating call that the store accepts stores its object. -/
theorem obtains (provides : Provides scene.world context) (reachable : scene.world.Reachable)
    (creates : request.entry ∈ [EntryPoint.createBuffer, .createImage]) {object : Object}
    (service : scene.world.store.service request = .creation (.ok object)) :
    ∃ handle after, (Action.obtain Machine.driver request).perform scene = (.ok handle, after) ∧
      Made scene.world after.world object handle := by
  obtain ⟨allowed, stored⟩ := provides.allowed request.entry creates
  have free : ¬ (scene.world.counted request).injection.nulls.contains request.entry = true := by
    rw [Machine.counted, stored]
    exact Bool.false_ne_true
  have performed : scene.world.perform request =
      (.ok { handle := (scene.world.store.add object).1 },
        { scene.world.counted request with store := (scene.world.store.add object).2 }) := by
    have same : (scene.world.counted request).store = scene.world.store := rfl
    rw [Machine.perform_of_serving provides.serving allowed, Machine.serve_eq]
    simp only [same, service, Machine.create]
    exact if_neg free
  have next := handleOf_ne_zero (scene.world.store.made + 1)
  refine ⟨(scene.world.store.add object).1,
    { scene with world := { scene.world.counted request with store := (scene.world.store.add object).2 } },
    ?_, ?_⟩
  · have handled := checkHandle_ok_iff.mpr ⟨⟨rfl, next⟩, rfl⟩
    rw [Action.obtain, Action.perform_bind, Action.perform_call, Machine.driver, performed]
    dsimp only [Store.add] at handled ⊢
    rw [handled]
    rfl
  · constructor
    · exact reachable.of_answered performed
    · exact provides.serving
    · rfl
    · exact reachable.orderly.find?_add object
    · exact fun id other found => Table.find?_insert_of_found found

/-- The runtime serves a creating call only if the store accepts it. -/
theorem accepted_of_serves (provides : Provides scene.world context)
    (creates : request.entry ∈ [EntryPoint.createBuffer, .createImage])
    {created : Except Refusal Object} (service : scene.world.store.service request = .creation created)
    (served : Serves scene.world request) : ∃ object, created = .ok object := by
  obtain ⟨allowed, _⟩ := provides.allowed request.entry creates
  obtain ⟨response, after, performed, _, held⟩ := served
  have same : (scene.world.counted request).store = scene.world.store := rfl
  rw [Machine.perform_of_serving provides.serving allowed, Machine.serve_eq] at performed
  simp only [same, service, Machine.create] at performed
  cases created with
  | ok object => exact ⟨object, rfl⟩
  | error refusal =>
    cases refusal with
    | status code =>
      cases performed
      exact (held rfl).elim
    | fault fault => cases performed

section
variable (provides : Provides scene.world context) (reachable : scene.world.Reachable) {flags : UInt64}
  {host : Option Block}
include provides reachable

theorem newBufferFrom_makes {size : Nat} {object : Object}
    (accepted : scene.world.store.newBuffer context.owned.handle flags size host = .ok object) :
    ∃ buffer after, (context.newBufferFrom Machine.driver flags size host).perform scene =
        (.ok buffer, after) ∧ Made scene.world after.world object buffer.owned.handle := by
  have service : scene.world.store.service (.createBuffer context.owned.handle flags size host) =
      .creation (.ok object) := congrArg Service.creation accepted
  obtain ⟨handle, after, obtained, made⟩ := provides.obtains reachable (.head _) service
  have performed : (context.newBufferFrom Machine.driver flags size host).perform scene =
      (.ok ⟨⟨handle⟩, .buffer size⟩,
        { after with notices := .created .memory handle :: .bufferMade size flags :: after.notices }) := by
    rw [Context.newBufferFrom, (provides.settles_context reachable).perform_bind, Action.perform_bind,
      obtained]
    rfl
  exact ⟨_, _, performed, made⟩

section
variable {format : ImageFormat} {layout : ImageDescriptor}

theorem newImageFrom_makes {object : Object}
    (accepted : scene.world.store.newImage context.owned.handle flags (some format.toRaw)
      (some { layout with buffer := 0 }) host = .ok object) :
    ∃ image after, (context.newImageFrom Machine.driver flags format layout none host).perform scene =
        (.ok image, after) ∧ image.format? = some format ∧
      Made scene.world after.world object image.owned.handle := by
  have service : scene.world.store.service (.createImage context.owned.handle flags (some format.toRaw)
      (some { layout with buffer := 0 }) host) = .creation (.ok object) :=
    congrArg Service.creation accepted
  obtain ⟨handle, after, obtained, made⟩ := provides.obtains reachable (.tail _ (.head _)) service
  have backed : Settles (Context.backingHandle none) (.ok 0) := fun _ => rfl
  have performed : (context.newImageFrom Machine.driver flags format layout none host).perform scene =
      (.ok ⟨⟨handle⟩, .image format⟩,
        { after with notices := .created .memory handle :: .imageMade layout format :: after.notices }) := by
    rw [Context.newImageFrom, backed.perform_bind, (provides.settles_context reachable).perform_bind,
      Action.perform_bind, obtained]
    rfl
  exact ⟨_, _, performed, rfl, made⟩

theorem newImageFrom_accepted
    (accepts : Accepts (context.newImageFrom Machine.driver flags format layout none host) scene) :
    ∃ object, scene.world.store.newImage context.owned.handle flags (some format.toRaw)
      (some { layout with buffer := 0 }) host = .ok object := by
  have backed : Settles (Context.backingHandle none) (.ok 0) := fun _ => rfl
  have asks : Asks (context.newImageFrom Machine.driver flags format layout none host) scene
      (.createImage context.owned.handle flags (some format.toRaw) (some { layout with buffer := 0 })
        host) :=
    .after backed (.after (provides.settles_context reachable) (.of_obtain fun _ _ => ⟨_, _, rfl⟩))
  exact provides.accepted_of_serves (.tail _ (.head _)) rfl (asks.accepts_iff.mp accepts)

end
end
end Provides
end Offload.Host
