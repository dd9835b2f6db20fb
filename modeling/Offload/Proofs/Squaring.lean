import Mathlib.Order.Bounds.Defs
import Offload.Proofs.Arguments
import Offload.Proofs.ImageBounds
import Offload.Proofs.Launches
import Offload.Proofs.Programs
import Offload.Proofs.Squares

/-! Dispatching the kernel that squares. Its arguments are bound one by one, as bytes, and are taken
apart again when it runs; how many words it squares is decided by the number of work items and by
its last argument, whichever is less. -/
namespace Offload.Simulator

/-- Sizes that the runtime runs kernels over, of which it reads as many as there are dimensions. -/
structure Runnable (dimensions : Nat) (globals : List Nat) (locals : Option (List Nat)) : Prop where
  bounded : 1 ≤ dimensions ∧ dimensions ≤ 3
  filled : 0 ∉ globals.take dimensions
  grouped : ∀ sizes ∈ locals,
    Store.groupsFit (globals.take dimensions) (sizes.take dimensions) = true

/-- Sizes that kernels can be dispatched over. Their number is handed on in 32 bits. -/
structure Launchable (globals : List Nat) (offsets locals : Option (List Nat)) : Prop where
  some_dimension : globals ≠ []
  offset : ∀ sizes ∈ offsets, sizes.length = globals.length
  locally : ∀ sizes ∈ locals, sizes.length = globals.length
  runnable : Runnable (globals.length % halfRange) globals locals

/-- What the kernel that squares has been given: memory objects to read and to write, and a number. -/
structure Armed (machine : Machine) (kernel source target limit : Nat) : Prop where
  reads : machine.kernelArgument? kernel 0 = some (LittleEndian.ofNat 8 source)
  writes : machine.kernelArgument? kernel 1 = some (LittleEndian.ofNat 8 target)
  counts : machine.kernelArgument? kernel 2 = some (ScalarType.uint32.encode limit)
  addressable : source < LittleEndian.capacity 8 ∧ target < LittleEndian.capacity 8
  countable : limit < LittleEndian.capacity 4

/-- A kernel whose arguments are the numbers that squaring needs. -/
structure SquareKernel (kernel : Kernel) (source target limit : Nat) : Prop where
  named : kernel.signature.name = "square"
  bound : kernel.arguments.all Option.isSome = true
  reads : argumentNumber kernel.arguments 0 8 = .ok source
  writes : argumentNumber kernel.arguments 1 8 = .ok target
  counts : argumentNumber kernel.arguments 2 4 = .ok limit

/-- A live memory object of so many bytes at least. -/
def Store.Holds (store : Store) (id size : Nat) : Prop :=
  ∃ memory, store.memory id = .ok memory ∧ size ≤ memory.data.size

private theorem argumentNumber_ofNat {arguments : List (Option Bytes)} {index width number : Nat}
    (bound : arguments[index]? = some (some (LittleEndian.ofNat width number)))
    (small : number < LittleEndian.capacity width) :
    argumentNumber arguments index width = .ok number := by
  rw [argumentNumber, bound]
  dsimp only [Option.getD_some]
  rw [if_pos (LittleEndian.length_ofNat width number), LittleEndian.toNat_ofNat, Nat.mod_eq_of_lt small]

private theorem encode_uint32 {value : Nat} (small : value < LittleEndian.capacity 4) :
    ScalarType.uint32.encode value = LittleEndian.ofNat 4 value := by
  show LittleEndian.ofNat 4 ((value : Int) % (LittleEndian.capacity 4 : Int)).toNat = _
  rw [← Int.natCast_emod, Int.toNat_natCast, Nat.mod_eq_of_lt small]

namespace Store
variable {store : Store} {kernel : Kernel} {source target limit items : Nat}

private theorem runSquare_of_held {sourceMemory targetMemory : Memory}
    (square : SquareKernel kernel source target limit)
    (sourced : store.memory source = .ok sourceMemory)
    (held : 4 * min items limit ≤ sourceMemory.data.size)
    (targeted : store.memory target = .ok targetMemory)
    (room : 4 * min items limit ≤ targetMemory.data.size) :
    store.runSquare kernel items = .ok { change := some (target, targetMemory.data.overwrite 0
      (squared (sourceMemory.data.window 0 (min items limit * 4)))) } := by
  have read : (min items limit * 4 ≤ sourceMemory.data.size) = True := eq_true (by omega)
  have size : (squared (sourceMemory.data.window 0 (min items limit * 4))).size ≤ targetMemory.data.size := by
    rw [size_squared_window held]
    omega
  simp only [runSquare, square.reads, square.writes, square.counts, sourced, targeted, bind, Except.bind,
    require, read, eq_true size, decide_true, if_true]

/-- Squaring needs both of its memory objects, and room in each for all words. -/
theorem held_of_runSquare {effect : Effect} (square : SquareKernel kernel source target limit)
    (accepted : store.runSquare kernel items = .ok effect) :
    store.Holds source (4 * min items limit) ∧ store.Holds target (4 * min items limit) := by
  obtain ⟨_, sourced, targeted⟩ := exists_of_bind_ok accepted
  obtain ⟨_, aimed, limited⟩ := exists_of_bind_ok targeted
  obtain ⟨_, counted, located⟩ := exists_of_bind_ok limited
  cases square.reads.symm.trans sourced
  cases square.writes.symm.trans aimed
  cases square.counts.symm.trans counted
  obtain ⟨sourceMemory, read, covered⟩ := exists_of_bind_ok located
  obtain ⟨_, enough, squares⟩ := exists_of_bind_ok covered
  obtain ⟨targetMemory, written, fitting⟩ := exists_of_bind_ok squares
  obtain ⟨_, room, _⟩ := exists_of_bind_ok fitting
  have held := of_decide_eq_true (require_ok_iff.mp enough)
  have fits := of_decide_eq_true (require_ok_iff.mp room)
  have filled : 4 * min items limit ≤ sourceMemory.data.size := by omega
  have size := size_squared_window filled
  exact ⟨⟨sourceMemory, read, filled⟩, targetMemory, written, by omega⟩

variable {id dimensions : Nat} {globals : List Nat} {locals : Option (List Nat)}

/-- A dispatch that is in order runs the kernel over as many items as its first size says. -/
theorem dispatch_square (found : store.kernel id = .ok kernel)
    (square : SquareKernel kernel source target limit)
    (runnable : Runnable dimensions globals locals) :
    store.dispatch id dimensions (some globals) locals = store.runSquare kernel (globals.headD 0) := by
  obtain ⟨⟨some_dimension, few⟩, filled, grouped⟩ := runnable
  have counted : (decide (1 ≤ dimensions) && decide (dimensions ≤ 3)) = true := by
    rw [decide_eq_true some_dimension, decide_eq_true few]
    rfl
  have nonzero : (!(globals.take dimensions).contains 0) = true := by
    rw [List.contains_eq_mem, decide_eq_false filled]
    rfl
  have first : (globals.take dimensions).headD 0 = globals.headD 0 := by
    rw [List.headD_eq_head?_getD, List.headD_eq_head?_getD, List.head?_take, if_neg (by omega)]
  cases locals with
  | none =>
    simp only [dispatch, found, bind, Except.bind, require, counted, nonzero, square.bound,
      square.named, first, if_true]
  | some sizes =>
    simp only [dispatch, found, bind, Except.bind, require, counted, nonzero, square.bound,
      square.named, first, grouped sizes rfl, if_true]

/-- Only sizes that are in order are accepted. -/
theorem runnable_of_dispatch {effect : Effect} (found : store.kernel id = .ok kernel)
    (accepted : store.dispatch id dimensions (some globals) locals = .ok effect) :
    Runnable dimensions globals locals := by
  obtain ⟨_, located, counting⟩ := exists_of_bind_ok accepted
  cases found.symm.trans located
  obtain ⟨_, counted, filling⟩ := exists_of_bind_ok counting
  obtain ⟨_, filled, grouping⟩ := exists_of_bind_ok filling
  constructor
  · simpa using require_ok_iff.mp counted
  · simpa using require_ok_iff.mp filled
  · rintro sizes rfl
    obtain ⟨_, grouped, _⟩ := exists_of_bind_ok grouping
    exact require_ok_iff.mp grouped

end Store
end Offload.Simulator

namespace Offload.Host
open Simulator

set_option maxRecDepth 4000 in
private theorem kernels_squareSource :
    Source.kernels squareSource.toList = [⟨"square", [.pointer, .pointer, .scalar 4]⟩] := by
  -- The characters are read off the literal, which is far quicker than decoding its bytes.
  have spelled : squareSource.toList = _ := String.toList_ofList
  rw [spelled]
  decide +kernel

section
variable {machine : Machine} {kernel : Kernel} {stored : Simulator.Kernel}

theorem Compiled.signature_eq (compiled : Compiled squareSource machine kernel)
    (located : machine.store.kernel kernel.owned.handle = .ok stored) :
    stored.signature = ⟨"square", [.pointer, .pointer, .scalar 4]⟩ := by
  have declared := compiled.declared located
  rw [kernels_squareSource, List.mem_singleton] at declared
  exact declared

private theorem Compiled.length_arguments (compiled : Compiled squareSource machine kernel)
    (reachable : machine.Reachable) (located : machine.store.kernel kernel.owned.handle = .ok stored) :
    stored.arguments.length = 3 := by
  have fitting := reachable.wellFormed (Store.kernel_ok_iff.mp located)
  cases fitting with
  | kernel bound =>
    rw [bound, compiled.signature_eq located]
    rfl

/-- With all of its arguments, the kernel of the source knows what to square. -/
theorem Compiled.square_of_armed {source target limit : Nat} (compiled : Compiled squareSource machine kernel)
    (reachable : machine.Reachable) (armed : Armed machine kernel.owned.handle source target limit) :
    ∃ stored, machine.store.kernel kernel.owned.handle = .ok stored ∧
      SquareKernel stored source target limit := by
  obtain ⟨stored, located, first⟩ := Machine.kernelArgument?_eq_some armed.reads
  obtain ⟨_, again, second⟩ := Machine.kernelArgument?_eq_some armed.writes
  cases located.symm.trans again
  obtain ⟨_, again, third⟩ := Machine.kernelArgument?_eq_some armed.counts
  cases located.symm.trans again
  refine ⟨stored, located, ?_⟩
  constructor
  · rw [compiled.signature_eq located]
  · apply List.all_eq_true.mpr
    intro argument member
    obtain ⟨index, placed⟩ := List.getElem?_of_mem member
    have below : index < 3 := by
      rw [← compiled.length_arguments reachable located]
      exact (List.getElem?_eq_some_iff.mp placed).1
    match index, below with
    | 0, _ =>
      cases first.symm.trans placed
      rfl
    | 1, _ =>
      cases second.symm.trans placed
      rfl
    | 2, _ =>
      cases third.symm.trans placed
      rfl
  · exact argumentNumber_ofNat first armed.addressable.1
  · exact argumentNumber_ofNat second armed.addressable.2
  · rw [encode_uint32 armed.countable] at third
    exact argumentNumber_ofNat third armed.countable

end

/-- The first words of the target are the squares of those that the source held before, and nothing
else has changed. -/
def Squared (before after : Store) (source target count : Nat) : Prop :=
  ∃ read written data, before.memory source = .ok read ∧ before.memory target = .ok written ∧
    Rewrites before after target written data ∧
    (∀ place < count, data.word place = Binary32.square (read.data.word place)) ∧
    ∀ index, 4 * count ≤ index → data.bytes[index]? = written.data.bytes[index]?

section
variable {scene : Scene Machine} {kernel : Kernel} {stored : Simulator.Kernel}
  (serving : scene.world.halted = false)
  (allowed : scene.world.injection.failure? .setKernelArg = none)
  (reachable : scene.world.Reachable)
  (located : scene.world.store.kernel kernel.owned.handle = .ok stored)
include serving allowed reachable located

/-- A live memory object is bound to a pointer by its handle. -/
theorem bindMemory_binds {index : Nat} {memory : Memory} {kept : Simulator.Memory}
    (taken : stored.signature.parameters[index]? = some .pointer)
    (live : scene.world.store.memory memory.owned.handle = .ok kept)
    (addressable : memory.owned.handle < LittleEndian.capacity 8) :
    ∃ after, (kernel.bindMemory Machine.driver index memory).perform scene = (.ok (), after) ∧
      Binds scene.world after.world kernel.owned.handle index
        (LittleEndian.ofNat 8 memory.owned.handle) := by
  have held := reachable.ne_zero (Store.memory_ok_iff.mp live)
  have named : LittleEndian.toNat ((LittleEndian.ofNat 8 memory.owned.handle).read 0 8) =
      memory.owned.handle := by
    rw [Bytes.read, List.drop_zero, Bytes.padded_self _ _ (LittleEndian.length_ofNat _ _),
      LittleEndian.toNat_ofNat, Nat.mod_eq_of_lt addressable]
  have suits : Suits scene.world.store .pointer 8
      (some (LittleEndian.ofNat 8 memory.owned.handle)) := by
    refine ⟨rfl, kept, ?_⟩
    rw [named]
    exact live
  have binding : kernel.Binding index _ _ _ _ := .memory memory held
  exact (binding.bindsByCall reachable located).binds serving allowed taken suits

/-- A number is bound to a parameter of its width. -/
theorem bindScalar_binds {index : Nat} (type : ScalarType) (value : Int)
    (taken : stored.signature.parameters[index]? = some (.scalar type.width)) :
    ∃ after, (kernel.bindScalar Machine.driver index type value).perform scene = (.ok (), after) ∧
      Binds scene.world after.world kernel.owned.handle index (type.encode value) := by
  have binding : kernel.Binding index _ _ _ _ := .scalar type value
  exact (binding.bindsByCall reachable located).binds serving allowed taken rfl

end
section
variable {scene : Scene Machine} {queue : Queue} {waits : List Event} {kernel : Kernel}
  {globals : List Nat} {offsets locals : Option (List Nat)}

private theorem effect_of_accepts {command : Action Machine Command} {named : Command}
    (naming : Settles command (.ok named))
    (accepts : Accepts (queue.enqueue Machine.driver waits command) scene) :
    ∃ effect, scene.world.store.effect named = .ok effect := by
  obtain ⟨_, handles, asks⟩ := submit_asks accepts
  have served := (asks command named naming _ passes_outcome).accepts_iff.mp accepts
  exact (serves_enqueue_iff.mp served).2.2.2.2

variable {source target limit : Nat} (reachable : scene.world.Reachable)
  (compiled : Compiled squareSource scene.world kernel)
  (armed : Armed scene.world kernel.owned.handle source target limit)
include reachable compiled armed

/-- Squaring is accepted for sizes that are in order, if both memory objects have room. -/
theorem held_of_accepts
    (accepts : Accepts (queue.dispatch Machine.driver kernel globals offsets locals waits) scene) :
    Launchable globals offsets locals ∧
      scene.world.store.Holds source (4 * min (globals.headD 0) limit) ∧
      scene.world.store.Holds target (4 * min (globals.headD 0) limit) := by
  have host := hostRules_of_accepts accepts
  obtain ⟨stored, located, square⟩ := compiled.square_of_armed reachable armed
  rw [Accepts, perform_dispatch host] at accepts
  obtain ⟨effect, accepted⟩ := effect_of_accepts (settles_dispatching reachable located) accepts
  obtain ⟨some_dimension, offset, locally⟩ := hostRules_iff.mp host
  have runnable := Store.runnable_of_dispatch located accepted
  have squared := (Store.dispatch_square located square runnable).symm.trans accepted
  exact ⟨⟨some_dimension, offset, locally, runnable⟩, Store.held_of_runSquare square squared⟩

private theorem dispatch_squares (ready : Ready scene.world queue waits)
    (launchable : Launchable globals offsets locals)
    (sourceHeld : scene.world.store.Holds source (4 * min (globals.headD 0) limit))
    (targetHeld : scene.world.store.Holds target (4 * min (globals.headD 0) limit)) :
    ∃ event after, (queue.dispatch Machine.driver kernel globals offsets locals waits).perform scene =
        (.ok event, after) ∧
      Squared scene.world.store after.world.store source target (min (globals.headD 0) limit) := by
  obtain ⟨stored, located, square⟩ := compiled.square_of_armed reachable armed
  obtain ⟨read, sourced, held⟩ := sourceHeld
  obtain ⟨written, targeted, room⟩ := targetHeld
  have accepted := (Store.dispatch_square located square launchable.runnable).trans
    (Store.runSquare_of_held square sourced held targeted room)
  have readyNow : Ready (noted scene kernel globals locals).world queue waits := ready
  obtain ⟨event, after, performed, carried⟩ :=
    readyNow.carries_out reachable (settles_dispatching reachable located) accepted
  obtain ⟨squares, rest⟩ := squares_placed held room
  refine ⟨event, after, ?_, read, written, _, sourced, targeted, carried.rewrites rfl targeted, squares, rest⟩
  rw [perform_dispatch
    (hostRules_iff.mpr ⟨launchable.some_dimension, launchable.offset, launchable.locally⟩)]
  exact performed

end

/-- Items are filled up to whole groups, and no further. -/
theorem paddedSize_isLeast (count : Nat) {group : Nat} (positive : 1 ≤ group) :
    IsLeast {size | group ∣ size ∧ count ≤ size} (paddedSize count group) := by
  have nonzero : group ≠ 0 := by omega
  have split := Nat.div_add_mod (count + (group - 1)) group
  have rest := Nat.mod_lt (count + (group - 1)) positive
  rw [Nat.mul_comm] at split
  rw [paddedSize, if_neg nonzero]
  constructor
  · exact ⟨Nat.dvd_mul_left _ _, by omega⟩
  · rintro _ ⟨⟨groups, rfl⟩, enough⟩
    rw [Nat.mul_comm group]
    apply Nat.mul_le_mul_right
    apply Nat.le_of_lt_succ
    apply Nat.div_lt_of_lt_mul
    rw [Nat.mul_succ]
    omega

/-- A padded number of items can be dispatched in groups. -/
theorem launchable_padded {count group : Nat} (some_item : 1 ≤ count) (positive : 1 ≤ group)
    (bounded : group ≤ maxWorkGroupSize) :
    Launchable [paddedSize count group] none (some [group]) := by
  obtain ⟨⟨whole, enough⟩, _⟩ := paddedSize_isLeast count positive
  refine ⟨List.cons_ne_nil _ _, nofun, ?_, ⟨Nat.le_refl 1, Nat.le_add_right 1 2⟩, ?_, ?_⟩
  · rintro _ ⟨⟩
    rfl
  · intro member
    have zero := List.mem_singleton.mp member
    omega
  · rintro _ ⟨⟩
    have some_group : ¬ (0 = group) := by omega
    have small : group % fullRange = group :=
      Nat.mod_eq_of_lt (Nat.lt_of_le_of_lt bounded (by decide))
    simp [Store.groupsFit, some_group, small, bounded, Nat.mod_eq_zero_of_dvd whole, halfRange]

/-- A kernel of the source that squares takes its arguments as they are meant. Over sizes that are in
order it runs if and only if its memory objects are live and have room for the words that the number
of items and the last argument both allow, and it squares exactly these. -/
theorem squaring_exact {scene : Scene Machine} {kernel : Kernel}
    (compiled : Compiled squareSource scene.world kernel) :
    (∀ count group, 1 ≤ group → group ≤ maxWorkGroupSize →
      IsLeast {size | group ∣ size ∧ count ≤ size} (paddedSize count group) ∧
        (1 ≤ count → Launchable [paddedSize count group] none (some [group]))) ∧
    (∀ stored, scene.world.store.kernel kernel.owned.handle = .ok stored → scene.world.halted = false →
      scene.world.injection.failure? .setKernelArg = none →
      (∀ index < 2, ∀ (memory : Memory) kept,
        scene.world.store.memory memory.owned.handle = .ok kept →
        memory.owned.handle < LittleEndian.capacity 8 →
          ∃ after, (kernel.bindMemory Machine.driver index memory).perform scene = (.ok (), after) ∧
            Binds scene.world after.world kernel.owned.handle index
              (LittleEndian.ofNat 8 memory.owned.handle)) ∧
      ∀ limit : Nat, ∃ after,
        (kernel.bindScalar Machine.driver 2 .uint32 limit).perform scene = (.ok (), after) ∧
          Binds scene.world after.world kernel.owned.handle 2 (ScalarType.uint32.encode limit)) ∧
    ∀ queue waits source target limit, Ready scene.world queue waits →
      Armed scene.world kernel.owned.handle source target limit → ∀ globals offsets locals,
        let count := min (globals.headD 0) limit
        let launch := queue.dispatch Machine.driver kernel globals offsets locals waits
        (Accepts launch scene ↔ Launchable globals offsets locals ∧
          scene.world.store.Holds source (4 * count) ∧ scene.world.store.Holds target (4 * count)) ∧
        ∀ event after, launch.perform scene = (.ok event, after) →
          Squared scene.world.store after.world.store source target count := by
  have reachable := compiled.reachable
  refine ⟨?_, ?_, ?_⟩
  · intro count group positive bounded
    refine ⟨paddedSize_isLeast count positive, ?_⟩
    intro some_item
    exact launchable_padded some_item positive bounded
  · intro stored located serving allowed
    have signature := compiled.signature_eq located
    constructor
    · intro index below memory kept live addressable
      have taken : stored.signature.parameters[index]? = some .pointer := by
        rw [signature]
        match index, below with
        | 0, _ | 1, _ => rfl
      exact bindMemory_binds serving allowed reachable located taken live addressable
    · intro limit
      have taken : stored.signature.parameters[2]? = some (.scalar ScalarType.uint32.width) := by
        rw [signature]
        rfl
      exact bindScalar_binds serving allowed reachable located .uint32 limit taken
  · intro queue waits source target limit ready armed globals offsets locals count launch
    constructor
    · constructor
      · exact held_of_accepts reachable compiled armed
      · rintro ⟨launchable, sourceHeld, targetHeld⟩
        obtain ⟨event, after, performed, _⟩ :=
          dispatch_squares reachable compiled armed ready launchable sourceHeld targetHeld
        exact ⟨event, after, performed⟩
    · intro event after performed
      obtain ⟨launchable, sourceHeld, targetHeld⟩ :=
        held_of_accepts reachable compiled armed ⟨event, after, performed⟩
      obtain ⟨_, _, same, squared⟩ :=
        dispatch_squares reachable compiled armed ready launchable sourceHeld targetHeld
      cases performed.symm.trans same
      exact squared

-- The three runs are irreducible because the source is too long to be unfolded outside the kernel.

/-- A runtime with a queue, a buffer of two words and the program that squares, built. -/
@[irreducible]
def workshop : Machine :=
  (Machine.ofTopology 1 1).run [.call (.createContext ⟨1, some [deviceId 0 0]⟩),
    .call (.createQueue (handleOf 1) (deviceId 0 0) 0),
    .call (.createBuffer (handleOf 1) 0 8 none),
    .call (.createProgram (handleOf 1) 1 (some [some squareSource]) false),
    .call (.buildProgram (handleOf 4) ⟨0, none⟩ none)]

def workshopQueue : Queue := ⟨⟨handleOf 2⟩, ⟨deviceId 0 0⟩, 0⟩

def squareProgram : Program := ⟨⟨handleOf 4⟩, [⟨deviceId 0 0⟩]⟩

def squareKernel : Kernel := ⟨⟨handleOf 5⟩, "square"⟩

/-- The kernel is made. -/
@[irreducible]
def crafting : Except Stop Kernel × Scene Machine :=
  (squareProgram.newKernel Machine.driver "square").perform ⟨workshop, []⟩

/-- It is to square two words in their place. -/
@[irreducible]
def armedMachine : Machine :=
  crafting.2.world.run [
    .call (.setKernelArg (handleOf 5) 0 8 (some (LittleEndian.ofNat 8 (handleOf 3)))),
    .call (.setKernelArg (handleOf 5) 1 8 (some (LittleEndian.ofNat 8 (handleOf 3)))),
    .call (.setKernelArg (handleOf 5) 2 4 (some (ScalarType.uint32.encode 2)))]

private theorem armed_ends :
    workshop.store.objects.find? (handleOf 4) = some (.program ⟨squareSource, .success, "",
      [⟨"square", [.pointer, .pointer, .scalar 4]⟩]⟩) ∧
      crafting.1.toOption = some squareKernel ∧
      armedMachine.halted = false ∧ armedMachine.injection = {} ∧
      armedMachine.store.objects.find? (handleOf 2) = some (.queue 0) ∧
      armedMachine.store.objects.find? (handleOf 3) = some (.memory ⟨Block.zeros 8, none⟩) ∧
      armedMachine.store.objects.find? (handleOf 5) = some (.kernel
        ⟨⟨"square", [.pointer, .pointer, .scalar 4]⟩, [some (LittleEndian.ofNat 8 (handleOf 3)),
          some (LittleEndian.ofNat 8 (handleOf 3)), some (ScalarType.uint32.encode 2)]⟩) := by decide +kernel

private theorem compiled_squareKernel : Compiled squareSource armedMachine squareKernel := by
  obtain ⟨built, crafted, _⟩ := armed_ends
  have reachable : workshop.Reachable := by
    unfold workshop
    exact ⟨1, 1, _, rfl⟩
  unfold armedMachine
  rcases made : crafting with ⟨_ | kernel, after⟩
  · rw [made] at crafted
    cases crafted
  · rw [made] at crafted
    cases crafted
    unfold crafting at made
    exact .made reachable (Store.program_ok_iff.mpr built) rfl made _

private theorem ready_armedMachine : Ready armedMachine workshopQueue [] := by
  obtain ⟨_, _, serving, free, queued, _⟩ := armed_ends
  constructor
  · exact serving
  · intro kind
    rw [free]
    rfl
  · exact ⟨0, Store.queue_ok_iff.mpr queued⟩
  · intro event waiting
    cases waiting
  · decide

private theorem armed_squareKernel : Armed armedMachine squareKernel.owned.handle (handleOf 3) (handleOf 3) 2 := by
  obtain ⟨_, _, _, _, _, _, bound⟩ := armed_ends
  have located := Store.kernel_ok_iff.mpr bound
  have small : handleOf 3 < LittleEndian.capacity 8 := by decide
  constructor
  · exact Machine.kernelArgument?_of_kernel located 0
  · exact Machine.kernelArgument?_of_kernel located 1
  · exact Machine.kernelArgument?_of_kernel located 2
  · exact ⟨small, small⟩
  · decide

/-- Three words are asked for, in groups of two, and both words of the buffer are squared. -/
theorem squareKernel_squares :
    (Compiled squareSource armedMachine squareKernel ∧ Ready armedMachine workshopQueue []) ∧
      ∃ event after, (workshopQueue.dispatch Machine.driver squareKernel [paddedSize 3 2] none (some [2])
        []).perform ⟨armedMachine, []⟩ = (.ok event, after) ∧
      Squared armedMachine.store after.world.store (handleOf 3) (handleOf 3) 2 := by
  refine ⟨⟨compiled_squareKernel, ready_armedMachine⟩, ?_⟩
  have exact := @squaring_exact ⟨armedMachine, []⟩ squareKernel compiled_squareKernel
  obtain ⟨padding, _, launches⟩ := exact
  have launchable := (padding 3 2 (by decide) (by decide)).2 (by decide)
  obtain ⟨_, _, _, _, _, kept, _⟩ := armed_ends
  have held : armedMachine.store.Holds (handleOf 3) 8 :=
    ⟨_, Store.memory_ok_iff.mpr kept, Nat.le_refl 8⟩
  obtain ⟨accepts, squares⟩ := launches workshopQueue [] (handleOf 3) (handleOf 3) 2 ready_armedMachine
    armed_squareKernel [paddedSize 3 2] none (some [2])
  obtain ⟨event, after, performed⟩ := accepts.mpr ⟨launchable, held, held⟩
  exact ⟨event, after, performed, squares event after performed⟩

end Offload.Host
