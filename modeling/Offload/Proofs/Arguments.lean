import Offload.Proofs.Submissions
import Offload.Proofs.WellFormed

/-! The arguments of a kernel, and what binds them. A binding operation makes one call, and the runtime
grants it exactly if the kernel has such a parameter and the value suits it. -/
namespace Offload.Simulator

theorem Machine.kernelArgument?_of_kernel {machine : Machine} {id : Nat} {kernel : Kernel}
    (located : machine.store.kernel id = .ok kernel) (index : Nat) :
    machine.kernelArgument? id index = kernel.arguments[index]?.join := by
  simp only [kernelArgument?, located]

theorem Machine.kernelArgument?_eq_some {machine : Machine} {id index : Nat} {bytes : Bytes}
    (bound : machine.kernelArgument? id index = some bytes) :
    ∃ kernel, machine.store.kernel id = .ok kernel ∧ kernel.arguments[index]? = some (some bytes) := by
  unfold kernelArgument? at bound
  split at bound
  · rename_i kernel found
    exact ⟨kernel, found, Option.join_eq_some_iff.mp bound⟩
  · cases bound

theorem Machine.kernelArgument?_congr {before after : Machine} {id : Nat}
    (same : after.store.kernel id = before.store.kernel id) (index : Nat) :
    after.kernelArgument? id index = before.kernelArgument? id index := by
  rw [kernelArgument?, kernelArgument?, same]

/-- A kernel has a place for the argument of each parameter. -/
theorem Machine.Reachable.index_lt {machine : Machine} (reachable : machine.Reachable) {id index : Nat}
    {kernel : Kernel} {parameter : ParameterKind} (located : machine.store.kernel id = .ok kernel)
    (taken : kernel.signature.parameters[index]? = some parameter) : index < kernel.arguments.length := by
  have fitting := reachable.wellFormed (Store.kernel_ok_iff.mp located)
  cases fitting with
  | kernel bound =>
    rw [bound]
    exact (List.getElem?_eq_some_iff.mp taken).1

/-- The bytes that a call binds: none where it passes no pointer. -/
def boundBytes (size : Nat) : Option Bytes → Bytes
  | none => []
  | some host => host.read 0 size

/-- Whether a size and a value suit a parameter: local memory has a size only, a pointer takes the
handle of a live memory object, and a number as many bytes as it has itself. -/
def Suits (store : Store) : ParameterKind → Nat → Option Bytes → Prop
  | .localMemory, size, none => size ≠ 0
  | .pointer, size, some host =>
    size = 8 ∧ ∃ memory, store.memory (LittleEndian.toNat (host.read 0 8)) = .ok memory
  | .scalar width, size, some _ => size = width
  | _, _, _ => False

private theorem argumentBytes_ok_iff {store : Store} {parameter : ParameterKind} {size : Nat}
    {value : Option Bytes} {bytes : Bytes} :
    argumentBytes store parameter size value = .ok bytes ↔
      Suits store parameter size value ∧ bytes = boundBytes size value := by
  cases parameter with
  | localMemory =>
    cases value with
    | some host => simp [argumentBytes, Suits, refuse]
    | none =>
      by_cases empty : size = 0
      · simp [argumentBytes, Suits, empty, refuse]
      · simp [argumentBytes, Suits, empty, boundBytes, eq_comm]
  | pointer =>
    cases value with
    | none => simp [argumentBytes, Suits, refuse]
    | some host =>
      by_cases whole : size = 8
      · subst whole
        cases located : store.memory (LittleEndian.toNat (host.read 0 8)) with
        | error refusal => simp [argumentBytes, Suits, located, refuse]
        | ok memory => simp [argumentBytes, Suits, located, boundBytes, @eq_comm _ bytes]
      · simp [argumentBytes, Suits, whole, refuse]
  | scalar width =>
    cases value with
    | none => simp [argumentBytes, Suits, refuse]
    | some host =>
      by_cases same : size = width
      · subst same
        simp [argumentBytes, Suits, boundBytes, eq_comm]
      · simp [argumentBytes, Suits, same, refuse]

namespace Store
variable {store : Store} {id index size : Nat} {value : Option Bytes}

/-- An argument is bound if the kernel has such a parameter and the value suits it. -/
theorem setArgument_ok_iff {after : Store} :
    store.setArgument id index size value = .ok after ↔
      ∃ kernel parameter, store.kernel id = .ok kernel ∧
        kernel.signature.parameters[index]? = some parameter ∧ Suits store parameter size value ∧
        after = store.replace id (.kernel
          { kernel with arguments := kernel.arguments.set index (some (boundBytes size value)) }) := by
  constructor
  · intro accepted
    obtain ⟨kernel, located, bound⟩ := exists_of_bind_ok accepted
    cases taken : kernel.signature.parameters[index]? with
    | none =>
      rw [taken] at bound
      cases bound
    | some parameter =>
      rw [taken] at bound
      obtain ⟨bytes, suited, stored⟩ := exists_of_bind_ok bound
      obtain ⟨suits, rfl⟩ := argumentBytes_ok_iff.mp suited
      exact ⟨kernel, parameter, located, taken, suits, (Except.ok.inj stored).symm⟩
  · rintro ⟨kernel, parameter, located, taken, suits, rfl⟩
    have suited := argumentBytes_ok_iff.mpr ⟨suits, rfl⟩
    simp only [setArgument, located, bind, Except.bind, taken, suited]

end Store

namespace Machine
variable {machine : Machine}

/-- The runtime carries a call out and reports success; no injected failure answers in its place. -/
def grants (machine : Machine) (request : Request) : Bool :=
  (machine.injection.failure? request.entry).isNone &&
    match (machine.perform request).1 with
    | .ok response => response.status == 0
    | .error _ => false

/-- Unless success is injected, what is answered with success has been carried out. -/
theorem grants_iff_answered {request : Request} (honest : machine.injection.failure? request.entry ≠ some 0) :
    machine.grants request = true ↔
      ∃ response, (machine.perform request).1 = .ok response ∧ response.status = 0 := by
  cases injected : machine.injection.failure? request.entry with
  | none =>
    rw [grants, injected]
    cases (machine.perform request).1 <;> simp
  | some status =>
    have failed : status ≠ 0 := fun same => honest (injected.trans (congrArg some same))
    refine iff_of_false (by rw [grants, injected]; nofun) ?_
    rintro ⟨response, answered, success⟩
    cases serving : machine.halted with
    | true =>
      rw [perform_of_halted serving] at answered
      cases answered
    | false =>
      rw [perform_of_failure serving injected] at answered
      cases answered
      exact failed success

/-- A call that binds an argument replaces the kernel, or has changed nothing. -/
theorem binding_cases (machine : Machine) (id index size : Nat) (value : Option Bytes) :
    let request := Request.setKernelArg id index size value
    (machine.grants request = true ∧
      machine.store.setArgument id index size value = .ok (machine.perform request).2.store) ∨
    (machine.grants request = false ∧ (machine.perform request).2.store = machine.store) := by
  intro request
  have outcome := outcome_perform machine request
  unfold grants
  generalize machine.perform request = answered at outcome
  obtain ⟨answer, after⟩ := answered
  dsimp only at outcome
  cases outcome with
  | halted => exact Or.inr ⟨Bool.and_false _, rfl⟩
  | injected _ failure => exact Or.inr ⟨by rw [failure]; rfl, rfl⟩
  | refused code _ _ _ _ failing =>
    refine Or.inr ⟨?_, rfl⟩
    dsimp only
    rw [beq_eq_false_iff_ne.mpr failing, Bool.and_false]
  | updated _ allowed service =>
    rw [allowed]
    exact Or.inl ⟨rfl, Service.update.inj service⟩
  | exhausted _ _ exceeds => cases (show machine.store.Exceeds (.setKernelArg id index size value) from exceeds)
  | faulted _ _ service | answered _ _ service | waited _ _ _ service | suppressed _ _ service
  | created _ _ service | compiled _ _ service | rejected _ _ service | queued _ _ service => cases service

/-- With nothing injected, an argument is bound if the kernel has such a parameter and the value suits
it. -/
theorem grants_iff {id index size : Nat} {value : Option Bytes} {kernel : Kernel}
    (serving : machine.halted = false) (allowed : machine.injection.failure? .setKernelArg = none)
    (located : machine.store.kernel id = .ok kernel) :
    machine.grants (.setKernelArg id index size value) = true ↔
      ∃ parameter, kernel.signature.parameters[index]? = some parameter ∧
        Suits machine.store parameter size value := by
  constructor
  · intro granted
    rcases machine.binding_cases id index size value with ⟨_, accepted⟩ | ⟨refused, _⟩
    · obtain ⟨_, parameter, found, taken, suits, _⟩ := Store.setArgument_ok_iff.mp accepted
      cases located.symm.trans found
      exact ⟨parameter, taken, suits⟩
    · cases granted.symm.trans refused
  · rintro ⟨parameter, taken, suits⟩
    have accepted := Store.setArgument_ok_iff.mpr ⟨kernel, parameter, located, taken, suits, rfl⟩
    have served := @perform_of_serving machine (.setKernelArg id index size value) serving allowed
    rw [grants, served]
    simp only [serve, counted, accepted, update, Request.entry, allowed]
    rfl

end Machine

end Offload.Simulator

namespace Offload.Host
open Simulator

/-- One argument of a kernel has been set, and all others are as they were. -/
structure Binds (before after : Machine) (kernel index : Nat) (bytes : Bytes) : Prop where
  bound : after.kernelArgument? kernel index = some bytes
  others : ∀ other, other ≠ index → after.kernelArgument? kernel other = before.kernelArgument? kernel other

theorem Binds.of_replace {before after : Machine} {id index : Nat} {stored : Simulator.Kernel}
    {bytes : Bytes} (located : before.store.kernel id = .ok stored) (short : index < stored.arguments.length)
    (replaced : after.store = before.store.replace id
      (.kernel { stored with arguments := stored.arguments.set index (some bytes) })) :
    Binds before after id index bytes := by
  have found : after.store.kernel id =
      .ok { stored with arguments := stored.arguments.set index (some bytes) } := by
    apply Store.kernel_ok_iff.mpr
    rw [replaced, Store.replace, Table.find?_replace, if_pos rfl, Store.kernel_ok_iff.mp located]
    rfl
  constructor
  · rw [Machine.kernelArgument?_of_kernel found, List.getElem?_set_self short]
    rfl
  · intro other different
    rw [Machine.kernelArgument?_of_kernel found, Machine.kernelArgument?_of_kernel located,
      List.getElem?_set_ne (Ne.symm different)]

/-- The operations that bind an argument, with the size and the value that they pass on and the bytes
that they bind. -/
inductive Kernel.Binding (kernel : Kernel) (index : Nat) :
    Action Machine Unit → Nat → Option Bytes → Bytes → Prop where
  | raw (size : Nat) (value : Option Bytes) :
      Binding kernel index (kernel.bind Machine.driver index size value) size value (boundBytes size value)
  | scalar (type : ScalarType) (value : Int) :
      Binding kernel index (kernel.bindScalar Machine.driver index type value) type.width
        (some (type.encode value)) (type.encode value)
  | memory (memory : Memory) (held : memory.owned.handle ≠ 0) :
      Binding kernel index (kernel.bindMemory Machine.driver index memory) 8
        (some (LittleEndian.ofNat 8 memory.owned.handle)) (LittleEndian.ofNat 8 memory.owned.handle)
  | localMemory (size : Nat) :
      Binding kernel index (kernel.bindLocal Machine.driver index size) size none []

/-- An operation that binds an argument in one call. What the runtime grants is bound, and all other
arguments of the kernel are as they were; what it does not grant changes no object. -/
structure BindsByCall (scene : Scene Machine) (stored : Simulator.Kernel) (id index size : Nat)
    (value : Option Bytes) (bytes : Bytes) (action : Action Machine Unit) : Prop where
  called : (action.perform scene).2.world = scene.world.after (.call (.setKernelArg id index size value))
  reported : scene.world.injection.failure? .setKernelArg ≠ some 0 →
    (Accepts action scene ↔ scene.world.grants (.setKernelArg id index size value) = true)
  bound : scene.world.grants (.setKernelArg id index size value) = true →
    Binds scene.world (action.perform scene).2.world id index bytes
  unbound : scene.world.grants (.setKernelArg id index size value) = false →
    (action.perform scene).2.world.store = scene.world.store
  granted_iff : scene.world.halted = false → scene.world.injection.failure? .setKernelArg = none →
    (scene.world.grants (.setKernelArg id index size value) = true ↔
      ∃ parameter, stored.signature.parameters[index]? = some parameter ∧
        Suits scene.world.store parameter size value)

namespace Kernel.Binding
variable {kernel : Kernel} {index size : Nat} {action : Action Machine Unit} {value : Option Bytes}
  {bytes : Bytes}

private theorem bytes_eq (binding : kernel.Binding index action size value bytes) :
    bytes = boundBytes size value := by
  cases binding with
  | raw | localMemory => rfl
  | scalar type value =>
    rw [boundBytes, Bytes.read, List.drop_zero, Bytes.padded_self _ _ (type.length_encode value)]
  | memory =>
    rw [boundBytes, Bytes.read, List.drop_zero, Bytes.padded_self _ _ (LittleEndian.length_ofNat _ _)]

/-- All of them come down to passing on a size and a value. -/
theorem perform_eq (binding : kernel.Binding index action size value bytes) (scene : Scene Machine) :
    action.perform scene = (kernel.bind Machine.driver index size value).perform scene := by
  cases binding with
  | raw | scalar | localMemory => rfl
  | memory memory held => rw [Kernel.bindMemory, (settles_use held).perform_bind]

end Kernel.Binding

/-- A call that has to succeed is made, and its status decides. -/
theorem perform_demand_unit (scene : Scene Machine) (request : Request) :
    let action : Action Machine Unit := Action.demand Machine.driver request >>= fun _ => pure ()
    (action.perform scene).2.world = scene.world.after (.call request) ∧
      (Accepts action scene ↔
        ∃ response, (scene.world.perform request).1 = .ok response ∧ response.status = 0) := by
  intro action
  rw [Machine.after]
  rcases answered : scene.world.perform request with ⟨found | response, world⟩
  · have performed : action.perform scene = (.error (.faulted found), { scene with world := world }) := by
      rw [Action.perform_bind, Action.demand, Action.perform_bind, Action.perform_call, Machine.driver,
        answered]
    refine ⟨by rw [performed], iff_of_false ?_ ?_⟩
    · rintro ⟨_, _, ended⟩
      cases performed.symm.trans ended
    · rintro ⟨_, ⟨⟩, _⟩
  · have performed : action.perform scene =
        ((check response.status).mapError .failed, { scene with world := world }) := by
      rw [Action.perform_bind, perform_demand answered]
      cases check response.status <;> rfl
    refine ⟨by rw [performed], ?_⟩
    cases checked : check response.status with
    | error error =>
      rw [checked] at performed
      refine iff_of_false ?_ ?_
      · rintro ⟨_, _, ended⟩
        cases performed.symm.trans ended
      · rintro ⟨_, ⟨⟩, success⟩
        cases checked.symm.trans (check_ok_iff.mpr success)
    | ok success =>
      rw [checked] at performed
      exact iff_of_true ⟨_, _, performed⟩ ⟨response, rfl, check_ok_iff.mp checked⟩

theorem Kernel.Binding.bindsByCall {scene : Scene Machine} {kernel : Kernel} {stored : Simulator.Kernel}
    {index size : Nat} {action : Action Machine Unit} {value : Option Bytes} {bytes : Bytes}
    (binding : kernel.Binding index action size value bytes) (reachable : scene.world.Reachable)
    (located : scene.world.store.kernel kernel.owned.handle = .ok stored) :
    BindsByCall scene stored kernel.owned.handle index size value bytes action := by
  obtain ⟨request, asked⟩ : ∃ request, request =
      Request.setKernelArg kernel.owned.handle index size value := ⟨_, rfl⟩
  have performed : action.perform scene =
      (Action.demand Machine.driver request >>= fun _ => pure ()).perform scene := by
    have used := settles_use (reachable.ne_zero (Store.kernel_ok_iff.mp located))
    rw [binding.perform_eq, Kernel.bind, used.perform_bind, asked]
  obtain ⟨called, accepts⟩ := perform_demand_unit scene request
  subst asked
  have cases := scene.world.binding_cases kernel.owned.handle index size value
  constructor
  · rw [performed, called]
  · intro honest
    rw [Machine.grants_iff_answered honest, ← accepts, Accepts, performed]
    rfl
  · intro granted
    rcases cases with ⟨_, accepted⟩ | ⟨refused, _⟩
    · obtain ⟨_, _, found, taken, _, replaced⟩ := Store.setArgument_ok_iff.mp accepted
      rw [performed, called, binding.bytes_eq]
      exact .of_replace found (reachable.index_lt found taken) replaced
    · cases granted.symm.trans refused
  · intro refused
    rcases cases with ⟨granted, _⟩ | ⟨_, same⟩
    · cases granted.symm.trans refused
    · rw [performed, called]
      exact same
  · exact fun serving allowed => Machine.grants_iff serving allowed located

/-- A value that suits its parameter is bound to it. -/
theorem BindsByCall.binds {scene : Scene Machine} {stored : Simulator.Kernel} {id index size : Nat}
    {value : Option Bytes} {bytes : Bytes} {action : Action Machine Unit}
    (call : BindsByCall scene stored id index size value bytes action)
    (serving : scene.world.halted = false)
    (allowed : scene.world.injection.failure? .setKernelArg = none) {parameter : ParameterKind}
    (taken : stored.signature.parameters[index]? = some parameter)
    (suits : Suits scene.world.store parameter size value) :
    ∃ after, action.perform scene = (.ok (), after) ∧ Binds scene.world after.world id index bytes := by
  have granted := (call.granted_iff serving allowed).mpr ⟨parameter, taken, suits⟩
  have bound := call.bound granted
  obtain ⟨_, after, performed⟩ := (call.reported (by rw [allowed]; nofun)).mpr granted
  rw [performed] at bound
  exact ⟨after, performed, bound⟩

end Offload.Host
