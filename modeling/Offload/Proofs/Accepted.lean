import Offload.Simulator.Machine

/-! What an operation of the store has found when it accepts its arguments. Lookups are read
off the table, and a creating call is tied to the kind of object that it makes. -/
namespace Offload.Simulator

/-- Steps that were all accepted, taken apart at the first of them. -/
theorem exists_of_bind_ok {α β : Type} {first : Except Refusal α} {next : α → Except Refusal β}
    {result : β} (accepted : first >>= next = .ok result) :
    ∃ value, first = .ok value ∧ next value = .ok result := by
  cases first with
  | error refusal => cases accepted
  | ok value => exact ⟨value, rfl, accepted⟩

/-- Steps are accepted together if each is, given what the steps before it have found. -/
theorem exists_bind_ok_iff {α β : Type} {first : Except Refusal α} {next : α → Except Refusal β} :
    (∃ result, first >>= next = .ok result) ↔
      ∃ value, first = .ok value ∧ ∃ result, next value = .ok result := by
  constructor
  · rintro ⟨result, accepted⟩
    obtain ⟨value, found, onward⟩ := exists_of_bind_ok accepted
    exact ⟨value, found, result, onward⟩
  · rintro ⟨value, rfl, accepted⟩
    exact accepted

theorem require_ok_iff {condition : Bool} {error : NativeError} :
    require condition error = .ok () ↔ condition = true := by
  cases condition <;> simp [require, refuse]

theorem reserve_of_le {size : Nat} (fits : size ≤ memoryLimit) : reserve size = .ok () := by
  rw [reserve, Offload.reserve_of_le fits]
  rfl

theorem reserve_of_lt {size : Nat} (large : memoryLimit < size) :
    reserve size = .error (.fault .tooLarge) := by
  rw [reserve, Offload.reserve_of_lt large]
  rfl

theorem reserve_ok_iff {size : Nat} : reserve size = .ok () ↔ size ≤ memoryLimit := by
  rcases Nat.lt_or_ge memoryLimit size with large | fits
  · rw [reserve_of_lt large]
    exact iff_of_false nofun (Nat.not_le_of_lt large)
  · exact iff_of_true (reserve_of_le fits) fits

namespace Store
variable {store : Store} {id : Nat}

theorem context_ok_iff {devices : List Nat} :
    store.context id = .ok devices ↔ store.objects.find? id = some (.context devices) := by
  unfold context
  split <;> simp_all [refuse]

theorem queue_ok_iff {properties : UInt64} :
    store.queue id = .ok properties ↔ store.objects.find? id = some (.queue properties) := by
  unfold queue
  split <;> simp_all [refuse]

theorem memory_ok_iff {memory : Memory} :
    store.memory id = .ok memory ↔ store.objects.find? id = some (.memory memory) := by
  unfold Store.memory
  split <;> simp_all [refuse]

theorem program_ok_iff {program : Program} :
    store.program id = .ok program ↔ store.objects.find? id = some (.program program) := by
  unfold Store.program
  split <;> simp_all [refuse]

theorem kernel_ok_iff {kernel : Kernel} :
    store.kernel id = .ok kernel ↔ store.objects.find? id = some (.kernel kernel) := by
  unfold Store.kernel
  split <;> simp_all [refuse]

theorem event_ok_iff {event : Event} :
    store.event id = .ok event ↔ store.objects.find? id = some (.event event) := by
  unfold Store.event
  split <;> simp_all [refuse]

end Store
end Offload.Simulator
