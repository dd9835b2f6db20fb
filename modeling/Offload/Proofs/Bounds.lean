import Offload.Proofs.Rectangles
import Offload.Proofs.Squares

/-! The commands of the runtime with a guard before every access: a part of a memory has to lie in
it and is only replaced by as many bytes, an argument has to have its place, and nothing is divided
by zero. On the objects that a runtime holds no guard ever stops a command. -/
namespace Offload

namespace Simulator

/-- Goes on under a condition; otherwise there is a fault. -/
def demand (condition : Prop) [Decidable condition] : Except Refusal Unit :=
  if condition then .ok () else .error (.fault .outsideRange)

/-- The remainder of a division. -/
def remainder (value divisor : Nat) : Except Refusal Nat := do
  demand (divisor ≠ 0)
  .ok (value % divisor)

end Simulator

namespace Block
open Simulator

/-- A part of the memory. -/
def slice (block : Block) (start stop : Nat) : Except Refusal Block := do
  demand (start ≤ stop ∧ stop ≤ block.size)
  .ok (block.window start (stop - start))

/-- Replaces a part of the memory by as many bytes. -/
def assign (block : Block) (start stop : Nat) (data : Block) : Except Refusal Block := do
  demand (start ≤ stop ∧ stop ≤ block.size)
  demand (data.size = stop - start)
  .ok (block.overwrite start data)

end Block

namespace RowPlan
open Simulator

/-- The rows of a memory, each of which has to lie in it. -/
def guardedFetch (plan : RowPlan) (device : Block) : Except Refusal (List (Nat × Block)) :=
  plan.spans.mapM fun span => do
    let row ← device.slice span.device (span.device + span.length)
    .ok (span.host, row)

/-- Replaces the rows of a memory one after the other. -/
def guardedUpload (plan : RowPlan) (host device : Block) : Except Refusal Block :=
  plan.spans.foldlM (fun device span =>
    device.assign span.device (span.device + span.length) (host.read span.host span.length)) device

end RowPlan

namespace Simulator
namespace Store

def guardedReadBuffer (store : Store) (buffer offset size : Nat) (target : Bool) :
    Except Refusal Effect := do
  let memory ← store.bufferRange buffer offset size
  require target .invalidValue
  let piece ← memory.data.slice offset (offset + size)
  .ok { writes := [(0, piece)] }

def guardedWriteBuffer (store : Store) (buffer offset size : Nat) (data : Option Block) :
    Except Refusal Effect := do
  let memory ← store.bufferRange buffer offset size
  match data with
  | none => refuse .invalidValue
  | some host => do
    let written ← memory.data.assign offset (offset + size) (host.read 0 size)
    .ok { change := some (buffer, written) }

def guardedCopyBuffer (store : Store) (source target sourceOffset targetOffset size : Nat) :
    Except Refusal Effect := do
  let sourceMemory ← store.bufferRange source sourceOffset size
  let targetMemory ← store.bufferRange target targetOffset size
  require (!(source == target && overlaps sourceOffset targetOffset size)) .memCopyOverlap
  let copied ← sourceMemory.data.slice sourceOffset (sourceOffset + size)
  let written ← targetMemory.data.assign targetOffset (targetOffset + size) copied
  .ok { change := some (target, written) }

/-- Whole patterns fill the range; there is no such number if the pattern has no size. -/
def guardedFillBuffer (store : Store) (buffer : Nat) (pattern : Option Bytes)
    (patternSize offset size : Nat) : Except Refusal Effect := do
  let memory ← store.bufferRange buffer offset size
  match pattern with
  | none => refuse .invalidValue
  | some host => do
    require (isPowerOfTwo patternSize && patternSize ≤ 128) .invalidValue
    let before ← remainder offset patternSize
    let within ← remainder size patternSize
    require (before == 0 && within == 0) .invalidValue
    demand (patternSize ≠ 0)
    let filled ← memory.data.assign offset (offset + size) (Block.tiled (host.read 0 patternSize) size)
    .ok { change := some (buffer, filled) }

def guardedReadImage (store : Store) (image : Nat) (origin extent : Option Triple) (rowPitch : Nat)
    (target : Bool) : Except Refusal Effect := do
  let (origin, extent) ← imageWindow origin extent
  let memory ← store.memory image
  let plan ← imageRows memory origin extent rowPitch
  require target .invalidValue
  let rows ← plan.guardedFetch memory.data
  .ok { writes := rows }

def guardedWriteImage (store : Store) (image : Nat) (origin extent : Option Triple) (rowPitch : Nat)
    (data : Option Block) : Except Refusal Effect := do
  let (origin, extent) ← imageWindow origin extent
  let memory ← store.memory image
  let plan ← imageRows memory origin extent rowPitch
  match data with
  | none => refuse .invalidValue
  | some host => do
    let written ← plan.guardedUpload host memory.data
    .ok { change := some (image, written) }

/-- The first of the sizes is looked at, and the squares go to the start of their target. -/
def guardedSquare (store : Store) (kernel : Kernel) (sizes : List Nat) : Except Refusal Effect := do
  let source ← argumentNumber kernel.arguments 0 8
  let target ← argumentNumber kernel.arguments 1 8
  let limit ← argumentNumber kernel.arguments 2 4
  demand (sizes ≠ [])
  let count := min (sizes.headD 0) limit
  let sourceMemory ← store.memory source
  require (count * 4 ≤ sourceMemory.data.size) .outOfResources
  let squares := squared (sourceMemory.data.window 0 (count * 4))
  let targetMemory ← store.memory target
  require (squares.size ≤ targetMemory.data.size) .outOfResources
  let written ← targetMemory.data.assign 0 squares.size squares
  .ok { change := some (target, written) }

/-- Each size is divided by that of its group. -/
def guardedGroups (globals locals : List Nat) : Except Refusal Unit := do
  require (!locals.contains 0) .invalidWorkGroupSize
  require (locals.foldl (· * ·) 1 % fullRange ≤ maxWorkGroupSize) .invalidWorkGroupSize
  let left ← (globals.zip locals).mapM fun size => remainder size.1 size.2
  require (left.all (· == 0)) .invalidWorkGroupSize

def guardedDispatch (store : Store) (id dimensions : Nat) (globals locals : Option (List Nat)) :
    Except Refusal Effect := do
  let kernel ← store.kernel id
  require (1 ≤ dimensions && dimensions ≤ 3) .invalidWorkDimension
  match globals with
  | none => refuse .invalidGlobalWorkSize
  | some globals => do
    let globals := globals.take dimensions
    require (!globals.contains 0) .invalidGlobalWorkSize
    match locals with
    | none => .ok ()
    | some locals => guardedGroups globals (locals.take dimensions)
    require (kernel.arguments.all Option.isSome) .invalidKernelArgs
    if kernel.signature.name = "square" then store.guardedSquare kernel globals else .ok {}

/-- The effect of a command, with a guard before every access. -/
def guardedEffect (store : Store) : Command → Except Refusal Effect
  | .readBuffer buffer offset size target => store.guardedReadBuffer buffer offset size target
  | .writeBuffer buffer offset size data => store.guardedWriteBuffer buffer offset size data
  | .copyBuffer source target sourceOffset targetOffset size =>
    store.guardedCopyBuffer source target sourceOffset targetOffset size
  | .fillBuffer buffer pattern patternSize offset size =>
    store.guardedFillBuffer buffer pattern patternSize offset size
  | .readImage image origin extent rowPitch _ target =>
    store.guardedReadImage image origin extent rowPitch target
  | .writeImage image origin extent rowPitch _ data =>
    store.guardedWriteImage image origin extent rowPitch data
  | .dispatch kernel dimensions _ globals locals =>
    store.guardedDispatch kernel dimensions globals locals
  | .barrier | .marker => .ok {}

/-- The rows of a new image are told apart by their length and taken out of the host memory that
its pitch spans. -/
def guardedImage (store : Store) (context : Nat) (flags : UInt64) (format : Option RawFormat)
    (descriptor : Option ImageDescriptor) (host : Option Block) : Except Refusal Object := do
  let _ ← store.context context
  checkMemoryFlags flags host.isSome
  match format, descriptor with
  | none, _ => refuse .invalidImageFormatDescriptor
  | some _, none => refuse .invalidImageDescriptor
  | some format, some descriptor =>
    match (ImageFormat.ofRaw format).pixelSize? with
    | none => refuse .imageFormatNotSupported
    | some pixel => do
      require (descriptor.kind.raw == Listed.code MemoryKind.image2D) .invalidImageDescriptor
      require (descriptor.width != 0 && descriptor.height != 0) .invalidImageSize
      let tight := descriptor.width * pixel
      require (descriptor.rowPitch == 0 || (host.isSome && tight ≤ descriptor.rowPitch))
        .invalidImageDescriptor
      let pitch := if descriptor.rowPitch = 0 then tight else descriptor.rowPitch
      let plan : RowPlan := {
        count := descriptor.height
        length := tight
        hostPitch := pitch
        deviceStart := 0
        devicePitch := tight }
      reserve (tight * descriptor.height)
      let blank := Block.zeros (tight * descriptor.height)
      let data ← match host with
        | none => .ok blank
        | some host => do
          demand (tight ≠ 0)
          plan.spans.forM fun span => demand (span.host + span.length ≤ pitch * descriptor.height)
          plan.guardedUpload host blank
      .ok (.memory { data := data, shape? := some ⟨descriptor.width, descriptor.height, pixel⟩ })

/-- An argument goes to a place that the kernel has. -/
def guardedArgument (store : Store) (id index size : Nat) (value : Option Bytes) :
    Except Refusal Store := do
  let kernel ← store.kernel id
  match kernel.signature.parameters[index]? with
  | none => refuse .invalidArgIndex
  | some parameter => do
    let bytes ← argumentBytes store parameter size value
    demand (index < kernel.arguments.length)
    .ok (store.replace id (.kernel { kernel with arguments := kernel.arguments.set index (some bytes) }))

end Store

variable {α β : Type}

theorem bind_congr_of_ok {first : Except Refusal α} {next other : α → Except Refusal β}
    (same : ∀ value, first = .ok value → next value = other value) : first >>= next = first >>= other := by
  cases first with
  | error refusal => rfl
  | ok value => exact same value rfl

theorem ok_bind (value : α) (next : α → Except Refusal β) : Except.ok value >>= next = next value := rfl

theorem demand_of {condition : Prop} [Decidable condition] (holds : condition) :
    demand condition = .ok () := if_pos holds

theorem remainder_of_ne_zero {value divisor : Nat} (divides : divisor ≠ 0) :
    remainder value divisor = .ok (value % divisor) := by
  rw [remainder, demand_of divides]
  rfl

theorem mapM_eq_ok {action : α → Except Refusal β} {view : α → β} {list : List α}
    (each : ∀ value ∈ list, action value = .ok (view value)) : list.mapM action = .ok (list.map view) := by
  induction list with
  | nil => rfl
  | cons value rest ih =>
    obtain ⟨first, others⟩ := List.forall_mem_cons.mp each
    rw [List.mapM_cons, first, ih others]
    rfl

private theorem forM_eq_ok {action : α → Except Refusal Unit} {list : List α}
    (each : ∀ value ∈ list, action value = .ok ()) : list.forM action = .ok () := by
  induction list with
  | nil => rfl
  | cons value rest ih =>
    obtain ⟨first, others⟩ := List.forall_mem_cons.mp each
    show (action value >>= fun _ => rest.forM action) = .ok ()
    rw [first]
    exact ih others

theorem require_and (first second : Bool) (error : NativeError) :
    require (first && second) error = require first error >>= fun _ => require second error := by
  cases first <;> rfl

end Simulator

namespace Block
open Simulator
variable {block data : Block} {start size : Nat} (inside : start + size ≤ block.size)
include inside

theorem slice_of_inside : block.slice start (start + size) = .ok (block.window start size) := by
  rw [slice, demand_of ⟨Nat.le_add_right start size, inside⟩, Nat.add_sub_cancel_left]
  rfl

theorem assign_of_inside (fits : data.size = size) :
    block.assign start (start + size) data = .ok (block.overwrite start data) := by
  have same : data.size = start + size - start := by omega
  rw [assign, demand_of ⟨Nat.le_add_right start size, inside⟩, demand_of same]
  rfl

end Block

namespace RowPlan
open Simulator
variable {plan : RowPlan} {device : Block}
  (placed : ∀ span ∈ plan.spans, span.device + span.length ≤ device.size)
include placed

private theorem guardedFetch_eq : plan.guardedFetch device = .ok (plan.fetch device) := by
  refine mapM_eq_ok fun span member => ?_
  rw [Block.slice_of_inside (placed span member)]
  rfl

theorem guardedUpload_eq (host : Block) :
    plan.guardedUpload host device = .ok (device.patch (plan.upload host)) := by
  rw [guardedUpload, upload]
  generalize plan.spans = spans at placed
  induction spans generalizing device with
  | nil => rfl
  | cons span rest ih =>
    obtain ⟨first, others⟩ := List.forall_mem_cons.mp placed
    -- A memory keeps its size while its rows are replaced.
    have still : ∀ other ∈ rest, other.device + other.length ≤
        (device.overwrite span.device (host.read span.host span.length)).size := by
      intro other member
      rw [Block.size_overwrite]
      exact others other member
    rw [List.foldlM_cons, Block.assign_of_inside first (Block.size_read _ _ _), ok_bind, ih still,
      List.map_cons, Block.patch, Block.patch, List.foldl_cons]

omit placed

private theorem device_inside (start : plan.deviceStart = 0) (tight : plan.devicePitch = plan.length) :
    ∀ span ∈ plan.spans, span.device + span.length ≤ plan.length * plan.count := by
  intro span member
  obtain ⟨row, below, rfl⟩ := List.mem_map.mp member
  have inside := row_inside (Nat.le_refl plan.length) (Nat.le_refl _) (List.mem_range.mp below)
  dsimp only [RowPlan.span]
  rwa [start, tight, Nat.zero_add]

private theorem host_inside (apart : plan.length ≤ plan.hostPitch) :
    ∀ span ∈ plan.spans, span.host + span.length ≤ plan.hostPitch * plan.count := by
  intro span member
  obtain ⟨row, below, rfl⟩ := List.mem_map.mp member
  exact row_inside apart (Nat.le_refl _) (List.mem_range.mp below)

end RowPlan

namespace Simulator

/-- The rows of a transfer that has been accepted lie in its image. -/
theorem placed_of_imageRows {memory : Memory} (fitting : (Object.memory memory).WellFormed)
    {origin extent : Triple} {rowPitch : Nat} {plan : RowPlan}
    (accepted : imageRows memory origin extent rowPitch = .ok plan) :
    ∀ span ∈ plan.spans, span.device + span.length ≤ memory.data.size := by
  unfold imageRows at accepted
  cases fitting with
  | buffer => cases accepted
  | @image data shape _ _ sized =>
    dsimp only at accepted
    split at accepted
    · cases accepted
    · split at accepted
      · cases accepted
      · rename_i inside _
        cases accepted
        intro span member
        obtain ⟨row, below, rfl⟩ := List.mem_map.mp member
        have low : origin.y + row < shape.height := by
          have := List.mem_range.mp below
          dsimp only at this
          omega
        have columns := Nat.mul_le_mul_right shape.pixel (show origin.x + extent.x ≤ shape.width by omega)
        have size : shape.width * shape.pixel * shape.height = data.size := by
          rw [sized, Nat.mul_right_comm]
        have within := row_inside (Nat.le_refl _) (Nat.le_of_eq size) low
        rw [Nat.add_mul] at columns within
        dsimp only [RowPlan.span]
        omega

namespace Store
variable (store : Store)

theorem guardedReadBuffer_eq (buffer offset size : Nat) (target : Bool) :
    store.guardedReadBuffer buffer offset size target = store.readBuffer buffer offset size target :=
  bind_congr_of_ok fun memory ranged => bind_congr_of_ok fun _ _ => by
    rw [Block.slice_of_inside (bufferRange_ok ranged).2.2]
    rfl

theorem guardedWriteBuffer_eq (buffer offset size : Nat) (data : Option Block) :
    store.guardedWriteBuffer buffer offset size data = store.writeBuffer buffer offset size data :=
  bind_congr_of_ok fun memory ranged => by
    cases data with
    | none => rfl
    | some host =>
      dsimp only
      rw [Block.assign_of_inside (bufferRange_ok ranged).2.2 (Block.size_read host 0 size)]
      rfl

theorem guardedCopyBuffer_eq (source target sourceOffset targetOffset size : Nat) :
    store.guardedCopyBuffer source target sourceOffset targetOffset size =
      store.copyBuffer source target sourceOffset targetOffset size :=
  bind_congr_of_ok fun taken ranged => bind_congr_of_ok fun given aimed => bind_congr_of_ok fun _ _ => by
    have inside := (bufferRange_ok ranged).2.2
    rw [Block.slice_of_inside inside]
    rw [ok_bind, Block.assign_of_inside (bufferRange_ok aimed).2.2 (Block.size_window_of_fits inside)]
    rfl

theorem guardedFillBuffer_eq (buffer : Nat) (pattern : Option Bytes) (patternSize offset size : Nat) :
    store.guardedFillBuffer buffer pattern patternSize offset size =
      store.fillBuffer buffer pattern patternSize offset size :=
  bind_congr_of_ok fun memory ranged => by
    cases pattern with
    | none => rfl
    | some host =>
      dsimp only
      have split : require (isPowerOfTwo patternSize && patternSize ≤ 128 && offset % patternSize == 0 &&
          size % patternSize == 0) .invalidValue =
          require (isPowerOfTwo patternSize && patternSize ≤ 128) .invalidValue >>= fun _ =>
            require (offset % patternSize == 0 && size % patternSize == 0) .invalidValue := by
        rw [Bool.and_assoc (_ && _), require_and]
      rw [split, bind_assoc]
      refine bind_congr_of_ok fun _ sound => ?_
      have powered := (Bool.and_eq_true_iff.mp (require_ok_iff.mp sound)).1
      have divides : patternSize ≠ 0 := bne_iff_ne.mp (Bool.and_eq_true_iff.mp powered).1
      rw [remainder_of_ne_zero divides, remainder_of_ne_zero divides, demand_of divides, ok_bind, ok_bind]
      refine bind_congr_of_ok fun _ whole => ?_
      have divided := (Bool.and_eq_true_iff.mp (require_ok_iff.mp whole)).2
      have repeated : (host.read 0 patternSize).length ∣ size := by
        rw [Bytes.length_read]
        exact Nat.dvd_of_mod_eq_zero (beq_iff_eq.mp divided)
      rw [ok_bind, Block.assign_of_inside (bufferRange_ok ranged).2.2 (Block.size_tiled repeated)]
      rfl

section images
variable {store} (fitting : ∀ id object, store.objects.find? id = some object → object.WellFormed)
include fitting

theorem guardedReadImage_eq (image : Nat) (origin extent : Option Triple) (rowPitch : Nat) (target : Bool) :
    store.guardedReadImage image origin extent rowPitch target =
      store.readImage image origin extent rowPitch target :=
  bind_congr_of_ok fun _ _ => bind_congr_of_ok fun memory located => bind_congr_of_ok fun plan planned =>
    bind_congr_of_ok fun _ _ => by
      have placed := placed_of_imageRows (fitting _ _ (memory_ok_iff.mp located)) planned
      rw [RowPlan.guardedFetch_eq placed]
      rfl

theorem guardedWriteImage_eq (image : Nat) (origin extent : Option Triple) (rowPitch : Nat)
    (data : Option Block) :
    store.guardedWriteImage image origin extent rowPitch data =
      store.writeImage image origin extent rowPitch data :=
  bind_congr_of_ok fun _ _ => bind_congr_of_ok fun memory located => bind_congr_of_ok fun plan planned => by
    cases data with
    | none => rfl
    | some host =>
      have placed := placed_of_imageRows (fitting _ _ (memory_ok_iff.mp located)) planned
      dsimp only
      rw [RowPlan.guardedUpload_eq placed]
      rfl

theorem guardedArgument_eq (id index size : Nat) (value : Option Bytes) :
    store.guardedArgument id index size value = store.setArgument id index size value :=
  bind_congr_of_ok fun kernel located => by
    cases parameter : kernel.signature.parameters[index]? with
    | none => rfl
    | some kind =>
      refine bind_congr_of_ok fun bytes _ => ?_
      have inside : index < kernel.arguments.length := by
        cases fitting _ _ (kernel_ok_iff.mp located) with
        | kernel bound => exact bound ▸ (List.getElem?_eq_some_iff.mp parameter).1
      rw [demand_of inside]
      rfl

end images

theorem guardedImage_eq (context : Nat) (flags : UInt64) (format : Option RawFormat)
    (descriptor : Option ImageDescriptor) (host : Option Block) :
    store.guardedImage context flags format descriptor host =
      store.newImage context flags format descriptor host :=
  bind_congr_of_ok fun _ _ => bind_congr_of_ok fun _ _ => by
    cases format with
    | none => rfl
    | some raw =>
      cases descriptor with
      | none => rfl
      | some layout =>
        dsimp only
        cases sized : (ImageFormat.ofRaw raw).pixelSize? with
        | none => rfl
        | some pixel =>
          refine bind_congr_of_ok fun _ _ => bind_congr_of_ok fun _ extent =>
            bind_congr_of_ok fun _ pitched => bind_congr_of_ok fun _ _ => ?_
          cases host with
          | none => rfl
          | some host =>
            obtain ⟨wide, _⟩ := Bool.and_eq_true_iff.mp (require_ok_iff.mp extent)
            have long : layout.width * pixel ≠ 0 :=
              Nat.mul_ne_zero (bne_iff_ne.mp wide) (Nat.ne_of_gt (ImageFormat.pixelSize_pos sized))
            have apart : layout.width * pixel ≤
                if layout.rowPitch = 0 then layout.width * pixel else layout.rowPitch := by
              have pitched := require_ok_iff.mp pitched
              simp only [Option.isSome_some, Bool.true_and, Bool.or_eq_true, beq_iff_eq,
                decide_eq_true_eq] at pitched
              split <;> omega
            dsimp only
            rw [demand_of long, ok_bind,
              forM_eq_ok fun span member => demand_of (RowPlan.host_inside apart span member), ok_bind,
              RowPlan.guardedUpload_eq (RowPlan.device_inside rfl rfl)]
            rfl

private theorem guardedGroups_eq (globals locals : List Nat) :
    guardedGroups globals locals = require (groupsFit globals locals) .invalidWorkGroupSize := by
  rw [groupsFit, require_and, require_and, bind_assoc]
  refine bind_congr_of_ok fun _ divided => bind_congr_of_ok fun _ _ => ?_
  have remainders : (globals.zip locals).mapM (fun size => remainder size.1 size.2) =
      .ok ((globals.zip locals).map fun size => size.1 % size.2) := by
    refine mapM_eq_ok fun size member => remainder_of_ne_zero fun zero => ?_
    have listed : 0 ∈ locals := zero ▸ (List.of_mem_zip member).2
    rw [require_ok_iff, List.contains_iff_mem.mpr listed] at divided
    cases divided
  rw [remainders, ok_bind, List.all_map]
  rfl

private theorem guardedSquare_eq (kernel : Kernel) {sizes : List Nat} (sized : sizes ≠ []) :
    store.guardedSquare kernel sizes = store.runSquare kernel (sizes.headD 0) := by
  refine bind_congr_of_ok fun _ _ => bind_congr_of_ok fun _ _ => bind_congr_of_ok fun _ _ => ?_
  rw [demand_of sized, ok_bind]
  refine bind_congr_of_ok fun _ _ => bind_congr_of_ok fun _ _ => bind_congr_of_ok fun _ _ =>
    bind_congr_of_ok fun _ room => ?_
  have inside := Nat.le_trans (Nat.le_of_eq (Nat.zero_add _)) (of_decide_eq_true (require_ok_iff.mp room))
  have assigned := Block.assign_of_inside inside rfl
  rw [Nat.zero_add] at assigned
  rw [assigned]
  rfl

theorem guardedDispatch_eq (id dimensions : Nat) {globals : Option (List Nat)} (locals : Option (List Nat))
    (complete : ∀ sizes ∈ globals, dimensions ≤ sizes.length) :
    store.guardedDispatch id dimensions globals locals = store.dispatch id dimensions globals locals :=
  bind_congr_of_ok fun kernel _ => bind_congr_of_ok fun _ dimensioned => by
    cases globals with
    | none => rfl
    | some sizes =>
      obtain ⟨positive, _⟩ := Bool.and_eq_true_iff.mp (require_ok_iff.mp dimensioned)
      have sized : sizes.take dimensions ≠ [] := by
        apply List.ne_nil_of_length_pos
        have covered := complete sizes rfl
        have positive := of_decide_eq_true positive
        rw [List.length_take]
        omega
      refine bind_congr_of_ok fun _ _ => ?_
      rw [guardedSquare_eq store kernel sized]
      cases locals with
      | none => rfl
      | some locals =>
        dsimp only
        rw [guardedGroups_eq]

end Store
end Simulator

/-- A command with all its sizes: a dispatch gives one for each of its dimensions. -/
def Command.Complete : Command → Prop
  | .dispatch _ dimensions _ globals _ => ∀ sizes ∈ globals, dimensions ≤ sizes.length
  | _ => True

namespace Simulator.Store

/-- The runtime with its guards is the runtime. -/
structure Bounded (store : Store) : Prop where
  commands : ∀ command : Command, command.Complete → store.guardedEffect command = store.effect command
  images : ∀ context flags format descriptor host,
    store.guardedImage context flags format descriptor host =
      store.newImage context flags format descriptor host
  arguments : ∀ id index size value,
    store.guardedArgument id index size value = store.setArgument id index size value

/-- On objects that are in order, no command and no creating call reaches outside a memory or divides by
zero. -/
theorem bounded_of_wellFormed {store : Store}
    (fitting : ∀ id object, store.objects.find? id = some object → object.WellFormed) : store.Bounded where
  images := guardedImage_eq store
  arguments := guardedArgument_eq fitting
  commands := fun command complete => by
    cases command with
    | readBuffer buffer offset size target => exact guardedReadBuffer_eq store buffer offset size target
    | writeBuffer buffer offset size data => exact guardedWriteBuffer_eq store buffer offset size data
    | copyBuffer source target sourceOffset targetOffset size =>
      exact guardedCopyBuffer_eq store source target sourceOffset targetOffset size
    | fillBuffer buffer pattern patternSize offset size =>
      exact guardedFillBuffer_eq store buffer pattern patternSize offset size
    | readImage image origin extent rowPitch slicePitch target =>
      exact guardedReadImage_eq fitting image origin extent rowPitch target
    | writeImage image origin extent rowPitch slicePitch data =>
      exact guardedWriteImage_eq fitting image origin extent rowPitch data
    | dispatch kernel dimensions offsets globals locals =>
      exact guardedDispatch_eq store kernel dimensions locals complete
    | barrier => rfl
    | marker => rfl

end Simulator.Store
end Offload
