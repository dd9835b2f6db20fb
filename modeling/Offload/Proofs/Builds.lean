import Offload.Proofs.Programs
import Offload.Proofs.Sources

/-! Building programs. What the runtime keeps of a program depends on its source, and on whether it
has been built at all: of all that happens to the runtime only a build touches a program, and
building it again changes nothing. -/
namespace Offload.Simulator

theorem Program.source_built (program : Program) : program.built.source = program.source := by
  unfold built
  split <;> rfl

theorem Program.built_built (program : Program) : program.built.built = program.built := by
  rw [built, source_built]
  unfold built
  split <;> rfl

/-- Whether a call has a program looked at by the compiler. -/
def builds (id : Nat) : Request → Bool
  | .buildProgram program devices _ => program == id && isConsistent devices
  | _ => false

def Happening.builds (id : Nat) : Happening → Bool
  | .call request => Simulator.builds id request
  | _ => false

private theorem exists_of_builds {id : Nat} {request : Request} (building : builds id request = true) :
    ∃ devices options, request = .buildProgram id devices options ∧ isConsistent devices = true := by
  cases request with
  | buildProgram program devices options =>
    obtain ⟨same, consistent⟩ := Bool.and_eq_true_iff.mp building
    exact ⟨devices, options, by rw [eq_of_beq same], consistent⟩
  | _ => cases building

theorem Machine.perform_build {machine : Machine} {id : Nat} {devices : HandleList}
    {program : Program} (serving : machine.halted = false)
    (allowed : machine.injection.failure? .buildProgram = none)
    (found : machine.store.program id = .ok program) (consistent : isConsistent devices = true)
    (options : Option String) :
    machine.perform (.buildProgram id devices options) =
      (.ok { status :=
          if Source.isBalanced program.source.toList then 0 else NativeError.buildProgramFailure.code },
        { machine.counted (.buildProgram id devices options) with
          lastBuildDevices := some devices.count
          store := machine.store.replace id (.program program.built) }) := by
  rw [@perform_of_serving machine (.buildProgram id devices options) serving allowed]
  exact @build_eq (machine.counted (.buildProgram id devices options)) _ _ _ found consistent

namespace Store
variable {store : Store} {id : Nat} {program : Program}

theorem program_replace {other : Nat} (found : store.objects.find? id = some (.program program))
    (apart : other ≠ id) (object : Object) :
    (store.replace other object).objects.find? id = some (.program program) := by
  rw [replace, Table.find?_replace, if_neg (Ne.symm apart), found]

theorem program_add (found : store.objects.find? id = some (.program program)) (object : Object) :
    (store.add object).2.objects.find? id = some (.program program) :=
  Table.find?_insert_of_found found

private theorem program_apply (found : store.objects.find? id = some (.program program)) (effect : Effect) :
    (store.apply effect).objects.find? id = some (.program program) := by
  unfold apply
  split
  · exact found
  · split
    · rename_i target _ _ memory located
      refine program_replace found (fun same => ?_) _
      subst same
      cases found.symm.trans (memory_ok_iff.mp located)
    · exact found

/-- An update leaves programs as they are, or takes them away. -/
theorem program_update {request : Request} {after : Store}
    (service : store.service request = .update (.ok after))
    (found : store.objects.find? id = some (.program program)) :
    after.objects.find? id = some (.program program) ∨ after.objects.find? id = none := by
  cases request with
  | setKernelArg =>
    obtain ⟨_, _, present, rfl⟩ := setArgument_ok (Service.update.inj service)
    refine Or.inl (program_replace found (fun same => ?_) _)
    subst same
    cases found.symm.trans present
  | setEventStatus =>
    obtain ⟨present, _, rfl⟩ := settle_ok (Service.update.inj service)
    refine Or.inl (program_replace found (fun same => ?_) _)
    subst same
    cases found.symm.trans present
  | release =>
    obtain ⟨_, _, _, rfl⟩ := remove_ok (Service.update.inj service)
    rw [Table.find?_erase]
    split
    · exact Or.inr rfl
    · exact Or.inl found
  | _ => cases service

end Store

/-- A call that does not build a program leaves it as it is, or takes it away. -/
theorem Outcome.program_kept {machine after : Machine} {request : Request}
    {answer : Except Fault Response} (outcome : Outcome machine request answer after) {id : Nat}
    {program : Program} (other : builds id request = false)
    (found : machine.store.objects.find? id = some (.program program)) :
    after.store.objects.find? id = some (.program program) ∨ after.store.objects.find? id = none := by
  cases outcome with
  | halted | injected | refused | faulted | exhausted | answered | waited | suppressed => exact Or.inl found
  | created => exact Or.inl (Store.program_add found _)
  | updated _ _ service => exact Store.program_update service found
  | compiled _ _ service _ consistent | rejected _ _ service _ consistent =>
    refine Or.inl (Store.program_replace found (fun same => ?_) _)
    subst same
    cases request with
    | buildProgram =>
      cases service
      simp [builds, consistent] at other
    | _ => cases service
  | @queued _ _ _ _ properties events effect =>
    obtain ⟨clock, queuedAt, finished⟩ := finishCommand_eq (machine.store.apply effect) properties events
    have ticked : Table.find? { machine.store.apply effect with clock := clock }.objects id =
        some (.program program) := Store.program_apply found effect
    refine Or.inl ?_
    dsimp only
    rw [finished]
    exact Store.program_add ticked _

/-- A call that is served keeps what was injected before it, and the runtime serving before it. -/
theorem Machine.undisturbed_of_run {machine : Machine} (happenings : List Happening)
    (serving : (machine.run happenings).halted = false) {entry : EntryPoint}
    (allowed : (machine.run happenings).injection.failure? entry = none) :
    machine.halted = false ∧ machine.injection.failure? entry = none := by
  induction happenings generalizing machine with
  | nil => exact ⟨serving, allowed⟩
  | cons first rest ih =>
    obtain ⟨serving, allowed⟩ := ih serving allowed
    refine ⟨serving_of_after serving, ?_⟩
    cases first with
    | call request => rwa [Machine.after, (outcome_perform machine request).injection_eq] at allowed
    | fail injected status =>
      simp only [Machine.after, fail, Injection.failure?, List.lookup_cons] at allowed ⊢
      split at allowed
      · cases allowed
      · exact allowed
    | returnNull | allocateContext => exact allowed

/-- One step of a runtime with a program. -/
theorem Machine.program_after {machine : Machine} {id : Nat} {program : Program}
    (serving : machine.halted = false) (allowed : machine.injection.failure? .buildProgram = none)
    (found : machine.store.objects.find? id = some (.program program)) (happening : Happening) :
    (machine.after happening).store.objects.find? id =
        some (.program (if happening.builds id then program.built else program)) ∨
      (machine.after happening).store.objects.find? id = none := by
  cases happening with
  | fail | returnNull => exact Or.inl found
  | allocateContext => exact Or.inl (Store.program_add found _)
  | call request =>
    cases building : builds id request with
    | false =>
      rw [Happening.builds, building]
      exact (outcome_perform machine request).program_kept building found
    | true =>
      obtain ⟨devices, options, rfl, consistent⟩ := exists_of_builds building
      rw [Happening.builds, building, Machine.after,
        Machine.perform_build serving allowed (Store.program_ok_iff.mpr found) consistent]
      refine Or.inl ?_
      rw [if_pos rfl]
      simp only [Store.replace, Table.find?_replace, found, if_true, Option.map_some]

/-- After a run a program that is still there is as it was, or as building it once leaves it. -/
theorem Machine.program_run {machine : Machine} (orderly : Orderly machine.store) {id : Nat}
    {program : Program} (found : machine.store.objects.find? id = some (.program program))
    {happenings : List Happening} (serving : (machine.run happenings).halted = false)
    (allowed : (machine.run happenings).injection.failure? .buildProgram = none) {object : Object}
    (live : (machine.run happenings).store.objects.find? id = some object) :
    object = .program (if happenings.any (·.builds id) then program.built else program) := by
  induction happenings generalizing machine program with
  | nil => exact Option.some.inj (live.symm.trans found)
  | cons first rest ih =>
    have issued := orderly.issued_of_find? found
    have step : Change machine.store (machine.after first).store := change_run machine [first]
    obtain ⟨undisturbed, free⟩ := undisturbed_of_run (first :: rest) serving allowed
    rcases program_after undisturbed free found first with kept | gone
    · rw [ih (orderly.changed step) kept serving allowed live, List.any_cons]
      cases first.builds id <;> cases rest.any (·.builds id) <;> simp [Program.built_built]
    -- What has gone stays gone, since its handle is not given out again.
    · obtain ⟨origin, present, _⟩ := (change_run (machine.after first) rest).descends
        (orderly.changed step) (step.issued issued) live
      cases gone.symm.trans present

/-- Platforms and devices stay what they were. -/
theorem Change.topology_eq {before after : Store} (change : Change before after) :
    after.platforms = before.platforms ∧ after.devices = before.devices := by
  induction change with
  | revised revision => cases revision <;> exact ⟨rfl, rfl⟩
  | added | removed | ticked => exact ⟨rfl, rfl⟩
  | composed _ _ early late => exact ⟨late.1.trans early.1, late.2.trans early.2⟩

theorem Change.deviceIndex_eq {before after : Store} (change : Change before after) (device : Nat) :
    after.deviceIndex device = before.deviceIndex device := by
  obtain ⟨platforms, devices⟩ := change.topology_eq
  simp only [Store.deviceIndex, platforms, devices]

end Offload.Simulator
