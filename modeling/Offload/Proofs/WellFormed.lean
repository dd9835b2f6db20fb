import Offload.Proofs.Runs
import Offload.Proofs.Sources

/-! What holds of every object in the runtime, from the call that makes it through all later
revisions: memory is as large as its shape says and not too large, a kernel has a place for each
parameter, and a program has no log but what the compiler has said of its source. -/
namespace Offload.Simulator

/-- Objects whose parts fit together. -/
inductive Object.WellFormed : Object → Prop where
  | context (devices : List Nat) : WellFormed (.context devices)
  | queue {properties : UInt64} (known : properties &&& ~~~knownQueueProperties = 0) :
      WellFormed (.queue properties)
  | buffer {data : Block} (filled : 0 < data.size) (fits : data.size ≤ memoryLimit) :
      WellFormed (.memory { data := data })
  | image {data : Block} {shape : ImageShape} (wide : 0 < shape.width) (high : 0 < shape.height)
      (sized : data.size = shape.width * shape.height * shape.pixel) (fits : data.size ≤ memoryLimit) :
      WellFormed (.memory { data := data, shape? := some shape })
  | program {program : Program} (fits : program.source.utf8ByteSize ≤ memoryLimit)
      (said : program.log = "" ∨ program.log = Source.bracketLog program.source.toList) :
      WellFormed (.program program)
  | kernel {kernel : Kernel}
      (bound : kernel.arguments.length = kernel.signature.parameters.length) :
      WellFormed (.kernel kernel)
  | user {status : Int} (staged : status = ExecutionStatus.submittedCode ∨ status ≤ 0) :
      WellFormed (.event (.user status))
  | command (waits : List Nat) (queuedAt : Option Nat) : WellFormed (.event (.command waits queuedAt))

namespace Object.WellFormed

private theorem entering {store : Store} {object : Object} (enters : Enters store object) :
    object.WellFormed := by
  cases enters with
  | queued => exact .command _ _
  | made fresh =>
    cases fresh with
    | context devices => exact .context devices
    | queue known => exact .queue known
    | buffer filled fits => exact .buffer filled fits
    | image wide high sized fits => exact .image wide high sized fits
    | program fits => exact .program fits (Or.inl rfl)
    | kernel signature => exact .kernel List.length_replicate
    | event => exact .user (Or.inl rfl)

private theorem revised {object revision : Object} (fitting : object.WellFormed)
    (revises : Revises object revision) : revision.WellFormed := by
  cases revises with
  | memory sized =>
    cases fitting with
    | buffer filled fits => exact .buffer (sized ▸ filled) (sized ▸ fits)
    | image wide high extent fits => exact .image wide high (sized.trans extent) (sized ▸ fits)
  | compiled =>
    cases fitting with
    | program fits => exact .program fits (Or.inl rfl)
  | rejected =>
    cases fitting with
    | program fits => exact .program fits (Or.inr rfl)
  | kernel index bytes =>
    cases fitting with
    | kernel bound => exact .kernel (List.length_set.trans bound)
  | event decided => exact .user (Or.inr decided)

end Object.WellFormed

/-- No step makes an object whose parts do not fit together. -/
theorem Change.wellFormed {before after : Store} (change : Change before after)
    (fitting : ∀ id object, before.objects.find? id = some object → object.WellFormed) :
    ∀ id object, after.objects.find? id = some object → object.WellFormed := by
  induction change with
  | revised revision =>
    cases revision with
    | unchanged => exact fitting
    | revised present revises =>
      intro id object found
      rcases Table.find?_replace_cases found with old | ⟨_, rfl⟩
      · exact fitting id object old
      · exact (fitting _ _ present).revised revises
  | added enters =>
    intro id object found
    rcases Table.find?_insert_cases found with old | ⟨_, rfl⟩
    · exact fitting id object old
    · exact .entering enters
  | removed =>
    intro id object found
    exact fitting id object (Table.of_find?_erase found)
  | ticked => exact fitting
  | composed _ _ early late => exact late (early fitting)

theorem Machine.Reachable.wellFormed {machine : Machine} (reachable : machine.Reachable) {id : Nat}
    {object : Object} (found : machine.store.objects.find? id = some object) : object.WellFormed := by
  obtain ⟨platforms, devices, happenings, rfl⟩ := reachable
  refine (change_run (ofTopology platforms devices) happenings).wellFormed ?_ id object found
  intro id object impossible
  cases impossible

/-- The log of a program is short, whatever its source is. -/
theorem Machine.Reachable.log_le {machine : Machine} (reachable : machine.Reachable) {id : Nat}
    {program : Program} (found : machine.store.program id = .ok program) : program.log.utf8ByteSize ≤ 100 := by
  cases reachable.wellFormed (Store.program_ok_iff.mp found) with
  | program fits said =>
    rcases said with silent | told
    · rw [silent]
      exact Nat.zero_le _
    · rw [told]
      exact Source.utf8ByteSize_bracketLog_le fits

end Offload.Simulator
