import Offload.Proofs.Arguments
import Offload.Proofs.Locality

/-! The arguments of a kernel are what was bound last. Calls that are refused leave them alone, and
so does everything else that happens: other kernels, builds and releases. -/
namespace Offload.Simulator.Machine

/-- What happens binds these bytes to an argument of a kernel, if it binds any. -/
def binding? (machine : Machine) (id index : Nat) : Happening → Option Bytes
  | .call (.setKernelArg kernel place size value) =>
    if kernel = id ∧ place = index ∧ machine.grants (.setKernelArg kernel place size value) = true then
      some (boundBytes size value)
    else none
  | _ => none

/-- What was last bound to an argument of a kernel in the course of a run. -/
def lastBound (machine : Machine) (id index : Nat) : List Happening → Option Bytes
  | [] => none
  | first :: rest => ((machine.after first).lastBound id index rest).or (machine.binding? id index first)

variable {machine : Machine}

theorem argument_of_other (orderly : Orderly machine.store) {happening : Happening} {id index : Nat}
    {later : Kernel} (other : ∀ place size value, happening ≠ .call (.setKernelArg id place size value))
    (found : (machine.after happening).store.kernel id = .ok later) :
    (machine.after happening).kernelArgument? id index = machine.kernelArgument? id index := by
  cases machine.origin_after happening (Store.kernel_ok_iff.mp found) with
  | same present => exact kernelArgument?_congr (found.trans (Store.kernel_ok_iff.mpr present).symm) index
  | altered called _ alters =>
    cases alters with
    | bound => exact (other _ _ _ called).elim
  | entered next enters =>
    have unused : machine.store.kernel id = refuse .invalidKernel := by
      rw [Store.kernel, next, orderly.find?_next]
      rfl
    cases enters with
    | made fresh =>
      cases fresh with
      | kernel signature =>
        rw [kernelArgument?_of_kernel found, kernelArgument?, unused, List.getElem?_replicate]
        split <;> rfl

theorem argument_after (reachable : machine.Reachable) (happening : Happening) {id index : Nat}
    {later : Kernel} (found : (machine.after happening).store.kernel id = .ok later) :
    (machine.after happening).kernelArgument? id index =
      (machine.binding? id index happening).or (machine.kernelArgument? id index) := by
  by_cases binds : ∃ place size value, happening = .call (.setKernelArg id place size value)
  · obtain ⟨place, size, value, rfl⟩ := binds
    rcases machine.binding_cases id place size value with ⟨granted, accepted⟩ | ⟨refused, same⟩
    · obtain ⟨stored, parameter, located, taken, _, replaced⟩ := Store.setArgument_ok_iff.mp accepted
      have binds := Host.Binds.of_replace located (reachable.index_lt located taken) replaced
      by_cases here : place = index
      · subst here
        rw [binding?, if_pos ⟨rfl, rfl, granted⟩]
        exact binds.bound
      · rw [binding?, if_neg fun all => here all.2.1]
        exact binds.others index (Ne.symm here)
    · rw [binding?, if_neg fun all => Bool.false_ne_true (refused.symm.trans all.2.2)]
      exact kernelArgument?_congr (congrArg (Store.kernel · id) same) index
  · have other : ∀ place size value, happening ≠ .call (.setKernelArg id place size value) :=
      fun place size value same => binds ⟨place, size, value, same⟩
    have silent : machine.binding? id index happening = none := by
      unfold binding?
      split
      · exact if_neg fun all => other _ _ _ (congrArg (Happening.call <| .setKernelArg · _ _ _) all.1)
      · rfl
    rw [silent]
    exact argument_of_other reachable.orderly other found

theorem kernel_before_run (orderly : Orderly machine.store) {happenings : List Happening} {id : Nat}
    {later : Kernel} (found : (machine.run happenings).store.kernel id = .ok later) :
    (∃ kernel, machine.store.kernel id = .ok kernel) ∨ handleOf machine.store.made < id := by
  rcases Nat.lt_or_ge (handleOf machine.store.made) id with fresh | issued
  · exact Or.inr fresh
  · obtain ⟨origin, present, descends⟩ := (change_run machine happenings).descends orderly issued
      (Store.kernel_ok_iff.mp found)
    cases Endures.of_descends descends with
    | kernel => exact Or.inl ⟨_, Store.kernel_ok_iff.mpr present⟩

theorem unbound_of_fresh (orderly : Orderly machine.store) {id : Nat}
    (fresh : handleOf machine.store.made < id) (index : Nat) : machine.kernelArgument? id index = none := by
  rw [kernelArgument?, Store.kernel]
  cases present : machine.store.objects.find? id with
  | none => rfl
  | some object =>
    have := orderly.issued_of_find? present
    omega

theorem kernel_of_binding {id index : Nat} {happening : Happening} {bytes : Bytes}
    (binds : machine.binding? id index happening = some bytes) :
    ∃ kernel, machine.store.kernel id = .ok kernel := by
  unfold binding? at binds
  split at binds
  · rename_i kernel place size value
    split at binds
    · rename_i granted
      rcases machine.binding_cases kernel place size value with ⟨_, accepted⟩ | ⟨refused, _⟩
      · obtain ⟨stored, _, located, _⟩ := Store.setArgument_ok_iff.mp accepted
        exact ⟨stored, granted.1 ▸ located⟩
      · cases granted.2.2.symm.trans refused
    · cases binds
  · cases binds

/-- Over a run, each argument is what was last bound, or what it was before. -/
theorem argument_run (reachable : machine.Reachable) (happenings : List Happening) {id : Nat}
    {later : Kernel} (found : (machine.run happenings).store.kernel id = .ok later) (index : Nat) :
    (machine.run happenings).kernelArgument? id index =
      (machine.lastBound id index happenings).or (machine.kernelArgument? id index) := by
  induction happenings generalizing machine with
  | nil => rfl
  | cons first rest ih =>
    have stepped := reachable.after first
    rw [lastBound, Option.or_assoc]
    refine (ih stepped found).trans (congrArg _ ?_)
    rcases kernel_before_run stepped.orderly found with ⟨kernel, located⟩ | fresh
    · exact argument_after reachable first located
    · -- The handle is given out later in the run; until then there is nothing to bind to.
      have earlier : handleOf machine.store.made < id :=
        Nat.lt_of_le_of_lt ((change_run machine [first]).issued (Nat.le_refl _)) fresh
      cases binds : machine.binding? id index first with
      | some bytes =>
        obtain ⟨kernel, located⟩ := kernel_of_binding binds
        have := reachable.orderly.issued_of_find? (Store.kernel_ok_iff.mp located)
        omega
      | none =>
        rw [unbound_of_fresh stepped.orderly fresh, unbound_of_fresh reachable.orderly earlier]
        rfl

end Offload.Simulator.Machine

namespace Offload.Host
open Simulator

/-- In every run, the arguments of a kernel that exists are what was last bound to them, and nothing
where nothing was bound. Each of the operations that bind an argument makes one call; the runtime grants
it exactly if there is such a parameter and the value suits it, and otherwise changes nothing. -/
theorem arguments_last_bound (platforms devices : Nat) (happenings : List Happening) :
    let start := Machine.ofTopology platforms devices
    let machine := start.run happenings
    (∀ id stored index, machine.store.kernel id = .ok stored →
      machine.kernelArgument? id index = start.lastBound id index happenings) ∧
    ∀ (notices : List Notice) (kernel : Kernel) stored,
      machine.store.kernel kernel.owned.handle = .ok stored →
      ∀ index action size value bytes, kernel.Binding index action size value bytes →
        BindsByCall ⟨machine, notices⟩ stored kernel.owned.handle index size value bytes action := by
  intro start machine
  have reachable : machine.Reachable := ⟨platforms, devices, happenings, rfl⟩
  constructor
  · intro id stored index located
    have started : start.Reachable := ⟨platforms, devices, [], rfl⟩
    rw [Machine.argument_run started happenings located index]
    exact Option.or_none
  · intro notices kernel stored located index action size value bytes binding
    exact binding.bindsByCall reachable located

/-- Two kernels of one program. To the first a buffer and two numbers are bound, the last one too short;
then the buffer is released and the program built again. -/
def twoKernels : List Happening := [
  .call (.createContext ⟨1, some [deviceId 0 0]⟩),
  .call (.createBuffer (handleOf 1) 0 8 none),
  .call (.createProgram (handleOf 1) 1 (some [some "__kernel void scale(__global int*a,int n)\x7b\x7d"]) false),
  .call (.buildProgram (handleOf 3) ⟨0, none⟩ none),
  .call (.createKernel (handleOf 3) (some "scale")),
  .call (.createKernel (handleOf 3) (some "scale")),
  .call (.setKernelArg (handleOf 4) 0 8 (some (LittleEndian.ofNat 8 (handleOf 2)))),
  .call (.setKernelArg (handleOf 4) 1 4 (some [7, 0, 0, 0])),
  .call (.setKernelArg (handleOf 4) 1 2 (some [9, 0])),
  .call (.release .memory (handleOf 2)),
  .call (.buildProgram (handleOf 3) ⟨0, none⟩ none)]

/-- The short number was not bound, the buffer still is, and the second kernel has no arguments. The
buffer cannot be bound again. -/
theorem twoKernels_arguments :
    let machine := (Machine.ofTopology 1 1).run twoKernels
    let kernel : Kernel := ⟨⟨handleOf 4⟩, "scale"⟩
    let buffer : Memory := ⟨⟨handleOf 2⟩, .buffer 8⟩
    machine.kernelArgument? (handleOf 4) 0 = some (LittleEndian.ofNat 8 (handleOf 2)) ∧
      machine.kernelArgument? (handleOf 4) 1 = some [7, 0, 0, 0] ∧
      machine.kernelArgument? (handleOf 5) 1 = none ∧
      ¬ Accepts (kernel.bindMemory Machine.driver 0 buffer) ⟨machine, []⟩ := by
  intro machine kernel buffer
  obtain ⟨slots, calls⟩ := arguments_last_bound 1 1 twoKernels
  have first : machine.store.objects.find? (handleOf 4) = some (.kernel ⟨⟨"scale", [.pointer, .scalar 4]⟩,
      [some (LittleEndian.ofNat 8 (handleOf 2)), some [7, 0, 0, 0]]⟩) := by decide +kernel
  have second : machine.store.objects.find? (handleOf 5) =
      some (.kernel ⟨⟨"scale", [.pointer, .scalar 4]⟩, [none, none]⟩) := by decide +kernel
  have free : machine.injection = {} := by decide +kernel
  have located := Store.kernel_ok_iff.mpr first
  refine ⟨?_, ?_, ?_, fun accepted => ?_⟩
  · rw [slots _ _ 0 located]
    decide +kernel
  · rw [slots _ _ 1 located]
    decide +kernel
  · rw [slots _ _ 1 (Store.kernel_ok_iff.mpr second)]
    decide +kernel
  · have call := calls [] kernel _ located 0 _ _ _ _ (.memory buffer (handleOf_ne_zero 2))
    have granted := (call.reported (by rw [free]; nofun)).mp accepted
    obtain ⟨_, ⟨⟩, _, memory, live⟩ := (call.granted_iff (by decide +kernel) (by rw [free]; rfl)).mp granted
    have named : LittleEndian.toNat ((LittleEndian.ofNat 8 (handleOf 2)).read 0 8) = handleOf 2 := by
      decide +kernel
    have gone : machine.store.objects.find? (handleOf 2) = none := by decide +kernel
    cases gone.symm.trans (named ▸ Store.memory_ok_iff.mp live)

end Offload.Host
